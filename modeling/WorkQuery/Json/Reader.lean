/-
This file reads JSON text. Besides the grammar of the format it takes the words `NaN`, `Infinity`
and `-Infinity`; control characters inside texts, commas at the end of lists and numerals with more
digits than can be read are refused. A fault is placed by the number of characters that were left
when it was found, from which `ReadFault.position?` counts its place in the text.
-/

import WorkQuery.Json.Value
import WorkQuery.Number.Reading
import WorkQuery.Text.Digit
import WorkQuery.Text.Symbol

namespace WorkQuery.Json

open Number Text

/-! ### Faults and profiles -/

/-- The two kinds of values that hold others. -/
inductive Nest
  | list
  | object
deriving DecidableEq, Repr

/-- Why a text is not read. -/
inductive ReadFault
  | malformed (remaining : Nat)
  | tooManyDigits (count : Nat)
  | tooDeep (nest : Nest)
deriving DecidableEq, Repr

/-- The place of a fault of form in a text, counted in symbols from zero. -/
def ReadFault.position? (text : String) : ReadFault → Option Nat
  | .malformed remaining =>
    let characters := text.toList
    some (symbols (characters.take (characters.length - remaining))).length
  | _ => none

/-- What a reader does at the edges of the format: how many lists and objects may stand inside each
other, if there is a limit, and whether empty ones count; whether half of a surrogate pair may stand
alone; and whether a numeral is measured with its sign and even if it has a point. -/
structure Profile where
  depthLimit : Option Nat
  countsEmpty : Bool
  loneHalves : Bool
  strictNumerals : Bool

/-- The profile of values as they come. -/
def Profile.lenient : Profile := ⟨none, true, true, false⟩

/-- The profile of values that are part of a request. -/
def Profile.request : Profile := ⟨some 990, true, true, false⟩

/-- The profile of a query document that arrives as text. -/
def Profile.document : Profile := ⟨some 200, false, false, true⟩

/-- Whether a value cannot stand below as many others as `depth`. -/
def Profile.refuses (profile : Profile) (depth : Nat) (empty : Bool) : Bool :=
  (profile.countsEmpty || !empty) && profile.depthLimit.any fun limit => limit ≤ depth

/-- What is read, with the characters after it. -/
abbrev Read (Content : Type) := Except ReadFault (Content × List Char)

/-- The characters after the blanks of the format. -/
def skipBlanks (characters : List Char) : List Char :=
  characters.dropWhile fun character =>
    character == ' ' || character == '\t' || character == '\n' || character == '\r'

/-! ### Texts -/

/-- The character that a one-letter escape stands for. -/
def escaped? (letter : Char) : Option Char :=
  match letter with
  | '"' => some '"'
  | '\\' => some '\\'
  | '/' => some '/'
  | 'b' => some '\x08'
  | 'f' => some '\x0c'
  | 'n' => some '\n'
  | 'r' => some '\r'
  | 't' => some '\t'
  | _ => none

/-- The number that the first four characters write in base sixteen. A fifth has to follow, since
the text has yet to be closed. -/
def codeUnit? (characters : List Char) : Option Nat := do
  guard (4 < (characters.take 5).length)
  let digits ← (characters.take 4).mapM hexDigit?
  return digits.foldl (fun value digit => 16 * value + digit) 0

/-- The symbol that a code escape stands for, and the characters after it; the argument starts after
the letter `u`. Two escapes that form a surrogate pair are one character. -/
def readCode (profile : Profile) (characters : List Char) : Read Symbol :=
  match codeUnit? characters with
  | none => .error (.malformed (characters.length + 1))
  | some unit =>
    let rest := characters.drop 4
    let lone : Read Symbol :=
      if profile.loneHalves then .ok (.ofCode unit, rest)
      else .error (.malformed characters.length)
    if opensPair unit then
      match rest with
      | '\\' :: 'u' :: low =>
        if (low.take 5).length ≤ 4 then lone
        else
          match codeUnit? low with
          | none => .error (.malformed (low.length + 1))
          | some lowUnit =>
            if closesPair lowUnit then .ok (.ofCode (pairCode unit lowUnit), low.drop 4) else lone
      | _ => lone
    else if closesPair unit then lone
    else .ok (.ofCode unit, rest)

/-- The text up to the closing quote. `opening` counts the characters from the opening quote on,
which is where an unclosed text is at fault; `fuel` bounds the number of steps. -/
def readText (profile : Profile) (opening : Nat) :
    Nat → List Char → List Char → Read String
  | 0, _, _ => .error (.malformed opening)
  | _ + 1, _, [] => .error (.malformed opening)
  | fuel + 1, before, character :: rest =>
    if character = '"' then .ok (String.ofList before.reverse, rest)
    else if character = '\\' then
      match rest with
      | [] => .error (.malformed opening)
      | letter :: rest' =>
        if letter = 'u' then
          match readCode profile rest' with
          | .error fault => .error fault
          | .ok (decoded, rest'') =>
            readText profile opening fuel (decoded.written.reverse ++ before) rest''
        else
          match escaped? letter with
          | none => .error (.malformed (rest.length + 1))
          | some decoded => readText profile opening fuel (decoded :: before) rest'
    else if character.toNat ≤ 0x1F then .error (.malformed (rest.length + 1))
    else readText profile opening fuel (character :: before) rest

/-! ### Numbers -/

/-- The exponent at the start of the characters, if there is a whole one, and what follows it. -/
def readExponent? : List Char → Option (Int × List Char)
  | letter :: rest =>
    let (negative, digits) := splitSign rest
    let run := digits.takeWhile Char.isDigit
    if (letter = 'e' ∨ letter = 'E') ∧ !run.isEmpty then
      some (signed negative (digitsValue run), digits.drop run.length)
    else none
  | [] => none

/-- The fraction at the start of the characters, if a digit follows the point, and what follows
it. -/
def readFraction? : List Char → Option (List Char × List Char)
  | '.' :: rest =>
    let run := rest.takeWhile Char.isDigit
    if run.isEmpty then none else some (run, rest.drop run.length)
  | _ => none

/-- The number at the start of the characters. -/
def readNumber (profile : Profile) (characters : List Char) : Read Value :=
  let (negative, unsigned) := match characters with
    | '-' :: rest => (true, rest)
    | rest => (false, rest)
  let whole := match unsigned with
    | '0' :: _ => ['0']
    | rest => rest.takeWhile Char.isDigit
  let rest := unsigned.drop whole.length
  let fraction? := readFraction? rest
  let (fraction, rest) := fraction?.getD ([], rest)
  let exponent? := readExponent? rest
  let (exponent, rest) := exponent?.getD (0, rest)
  let isWhole := fraction?.isNone && exponent?.isNone
  let size := if profile.strictNumerals && negative then whole.length + 1 else whole.length
  if whole.isEmpty then .error (.malformed characters.length)
  else if (profile.strictNumerals || isWhole) && digitLimit < size then
    .error (.tooManyDigits size)
  else if isWhole then .ok (.int (signed negative (digitsValue whole)), rest)
  else
    .ok (.real (.ofDecimal negative (digitsValue (whole ++ fraction))
      (exponent - fraction.length)), rest)

/-! ### Values -/

/-- The words that stand for a value. -/
def words : List (String × Value) :=
  [("null", .null), ("true", .bool true), ("false", .bool false),
   ("NaN", .real .notANumber), ("Infinity", .real (.infinite false)),
   ("-Infinity", .real (.infinite true))]

/-- The value at the start of the characters when it is no list and no object. -/
def readAtom (profile : Profile) (characters : List Char) : Read Value :=
  match characters with
  | '"' :: rest =>
    (readText profile characters.length characters.length [] rest).map fun (text, rest) =>
      (.text text, rest)
  | _ =>
    match words.find? fun word => word.1.toList.isPrefixOf characters with
    | some (word, value) => .ok (value, characters.drop word.length)
    | none => readNumber profile characters

mutual

/-- The value at the start of the characters. `depth` counts the lists and objects around it. -/
def readValue (profile : Profile) : Nat → Nat → List Char → Read Value
  | 0, _, characters => .error (.malformed characters.length)
  | fuel + 1, depth, characters =>
    match characters with
    | '[' :: rest =>
      match profile.refuses depth false, skipBlanks rest with
      | false, ']' :: rest' => .ok (.list [], rest')
      | false, rest' => readItems profile fuel (depth + 1) [] rest'
      | true, ']' :: rest' =>
        if profile.refuses depth true then .error (.tooDeep .list) else .ok (.list [], rest')
      | true, _ => .error (.tooDeep .list)
    | '\x7b' :: rest =>
      match profile.refuses depth false, skipBlanks rest with
      | false, '\x7d' :: rest' => .ok (.object [], rest')
      | false, rest' => readMembers profile fuel (depth + 1) [] rest'
      | true, '\x7d' :: rest' =>
        if profile.refuses depth true then .error (.tooDeep .object) else .ok (.object [], rest')
      | true, _ => .error (.tooDeep .object)
    | _ => readAtom profile characters

/-- The items of a list from one that has to be there up to the closing bracket. -/
def readItems (profile : Profile) : Nat → Nat → List Value → List Char → Read Value
  | 0, _, _, characters => .error (.malformed characters.length)
  | fuel + 1, depth, before, characters =>
    match readValue profile fuel depth characters with
    | .error fault => .error fault
    | .ok (item, rest) =>
      match skipBlanks rest with
      | ']' :: rest' => .ok (.list (item :: before).reverse, rest')
      | ',' :: rest' => readItems profile fuel depth (item :: before) (skipBlanks rest')
      | rest' => .error (.malformed rest'.length)

/-- The members of an object from one that has to be there up to the closing brace. -/
def readMembers (profile : Profile) :
    Nat → Nat → List (String × Value) → List Char → Read Value
  | 0, _, _, characters => .error (.malformed characters.length)
  | fuel + 1, depth, before, characters =>
    match characters with
    | '"' :: afterQuote =>
      match readText profile characters.length characters.length [] afterQuote with
      | .error fault => .error fault
      | .ok (name, afterName) =>
        match skipBlanks afterName with
        | ':' :: afterColon =>
          match readValue profile fuel depth (skipBlanks afterColon) with
          | .error fault => .error fault
          | .ok (value, rest) =>
            match skipBlanks rest with
            | '\x7d' :: rest' =>
              .ok (.object (Fields.ofList ((name, value) :: before).reverse), rest')
            | ',' :: rest' =>
              readMembers profile fuel depth ((name, value) :: before) (skipBlanks rest')
            | rest' => .error (.malformed rest'.length)
        | rest => .error (.malformed rest.length)
    | _ => .error (.malformed characters.length)

end

/-- The value that a text writes, with nothing but blanks around it. -/
def read (profile : Profile) (text : String) : Except ReadFault Value :=
  let characters := skipBlanks text.toList
  match readValue profile (2 * characters.length + 1) 0 characters with
  | .error fault => .error fault
  | .ok (value, rest) =>
    match skipBlanks rest with
    | [] => .ok value
    | rest' => .error (.malformed rest'.length)

end WorkQuery.Json
