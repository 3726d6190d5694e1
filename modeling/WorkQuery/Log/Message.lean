/-
This file puts arguments into message formats. Arguments are taken in order, or by name if there is
nothing but one record of them; every argument has to be used, except those of a record. The letter
of a place says what its argument is written as: a text, an integer in some base, a number with a
point, or a single character.
-/

import WorkQuery.Json.Display
import WorkQuery.Log.Format
import WorkQuery.Number.Precision
import WorkQuery.Schema.Scalar

namespace WorkQuery.Log

open Json Number Schema Text

/-! ### Faults -/

/-- Why arguments do not go with a format. -/
inductive FormatFault
  | tooFew
  | tooMany
  | noRecord
  | openName
  | missingName (name : String)
  | extentKind
  | wideExtent
  | preciseExtent
  | takenExtent (size : String)
  | longNumber
  | tooLong
  | unfinished
  | unknownPlace (letter : Symbol) (position : Nat)
  | integerKind (letter : Char) (kind : String)
  | numberKind (letter : Char) (kind : String)
  | realKind (kind : String)
  | realSize
  | characterKind
  | characterRange
  | conversion (fault : ConversionFault)
  | tooDeep

/-- A letter as faults show it: those beyond the plain ones of ASCII are not shown. -/
def shownLetter : Symbol → Char
  | .character letter => if 0x1F ≤ letter.toNat && letter.toNat ≤ 0x7E then letter else '?'
  | .half _ => '?'

/-- The sentence for a fault. -/
def FormatFault.message : FormatFault → String
  | tooFew => "not enough arguments for format string"
  | tooMany => "not all arguments converted during string formatting"
  | noRecord => "format requires a mapping"
  | openName => "incomplete format key"
  | missingName name => quoted name
  | extentKind => "* wants int"
  | wideExtent => "width too big"
  | preciseExtent => "precision too big"
  | takenExtent size => "Python int too large to convert to C " ++ size
  | longNumber => "precision too large"
  | tooLong => ""
  | unfinished => "incomplete format"
  | unknownPlace letter position =>
    "unsupported format character '" ++ String.singleton (shownLetter letter) ++ "' (0x" ++
      String.ofList (Nat.toDigits 16 letter.code) ++ ") at index " ++ naturalText position
  | integerKind letter kind =>
    "%" ++ String.singleton letter ++ " format: an integer is required, not " ++ kind
  | numberKind letter kind =>
    "%" ++ String.singleton letter ++ " format: a real number is required, not " ++ kind
  | realKind kind => "must be real number, not " ++ kind
  | realSize => "int too large to convert to float"
  | characterKind => "%c requires int or char"
  | characterRange => "%c arg not in range(0x110000)"
  | conversion fault => fault.message
  | tooDeep => (Failure.tooDeep .showing).message

/-- The fault of a message that has to show a value that cannot be shown. -/
def FormatFault.ofShowFault : ShowFault → FormatFault
  | .tooManyDigits => conversion .writing
  | .tooDeep => tooDeep

/-! ### Arguments -/

/-- The arguments that are left: a list, or a record with the one of its values that comes next. At
the start that is the record itself. -/
inductive Arguments
  | inOrder (items : List Value)
  | byName (fields : Fields) (next : Option Value)

/-- The arguments of a message: a list, unless it holds nothing but a record. -/
def Arguments.ofList : List Value → Arguments
  | [.object (field :: fields)] => .byName (field :: fields) (some (.object (field :: fields)))
  | items => .inOrder items

/-- The next argument, with those that are left. -/
def Arguments.take : Arguments → Except FormatFault (Value × Arguments)
  | .inOrder (item :: items) => .ok (item, .inOrder items)
  | .byName fields (some next) => .ok (next, .byName fields none)
  | _ => .error .tooFew

/-- The arguments once a key has chosen among them. -/
def Arguments.select (arguments : Arguments) : Key → Except FormatFault Arguments
  | .next => .ok arguments
  | key =>
    match arguments, key with
    | .inOrder _, _ => .error .noRecord
    | .byName fields _, .named name =>
      match fields.get? name with
      | some value => .ok (.byName fields (some value))
      | none => .error (.missingName name)
    | .byName .., _ => .error .openName

/-- Whether an argument is left that should have been used. -/
def Arguments.remain : Arguments → Bool
  | .inOrder items => !items.isEmpty
  | .byName .. => false

/-- What a number of characters can be: up to where, and with which fault beyond, depending on
whether it is given or taken from the arguments. -/
structure Limit where
  greatest : Nat
  given : FormatFault
  taken : FormatFault

/-- The limit of widths. -/
def widthLimit : Limit := ⟨9223372036854775807, .wideExtent, .takenExtent "ssize_t"⟩

/-- The limit of precisions. -/
def precisionLimit : Limit := ⟨2147483647, .preciseExtent, .takenExtent "int"⟩

/-- A number of characters, if one is asked for, with the arguments that are left. -/
def Arguments.extent (arguments : Arguments) (limit : Limit) :
    Extent → Except FormatFault (Option Int × Arguments)
  | .omitted => .ok (none, arguments)
  | .given count =>
    if limit.greatest < count then .error limit.given else .ok (some count, arguments)
  | .taken => do
    let (value, rest) ← arguments.take
    match value with
    | .int count =>
      if (limit.greatest : Int) < count ∨ count < -(limit.greatest : Int) - 1 then
        .error limit.taken
      else return (some count, rest)
    | .bool truth => return (some (if truth then 1 else 0), rest)
    | _ => .error .extentKind

/-! ### Written arguments -/

/-- An argument written out, its sign and the mark of its base apart. Only numbers are filled with
zeros. -/
structure Written where
  sign : String
  mark : String
  body : String
  isNumber : Bool

/-- A text without a sign. -/
def Written.ofText (body : String) : Written := ⟨"", "", body, false⟩

/-- The sign of a number. -/
def Flags.sign (flags : Flags) (negative : Bool) : String :=
  if negative then "-" else if flags.plusSign then "+" else if flags.blankSign then " " else ""

/-- An argument in its place, brought to a width. -/
def Written.padded (written : Written) (flags : Flags) (width : Nat) : String :=
  let length := written.sign.length + written.mark.length + textLength written.body
  let missing := width - length
  let blanks := String.ofList (List.replicate missing ' ')
  let zeros := String.ofList (List.replicate missing '0')
  if flags.leftAligned then written.sign ++ written.mark ++ written.body ++ blanks
  else if flags.zeroFilled && written.isNumber then
    written.sign ++ written.mark ++ zeros ++ written.body
  else blanks ++ written.sign ++ written.mark ++ written.body

/-! ### Texts -/

/-- A text with the characters outside of ASCII written by their codes. -/
def plainLetters (text : String) : String :=
  String.ofList (text.toList.flatMap fun character =>
    if character.toNat < 0x80 then [character] else codeEscape character.toNat)

/-- A text cut to a precision. -/
def writeText (text : String) (precision : Option Nat) : Written :=
  .ofText (match precision with
    | some count => ofSymbols ((symbols text.toList).take count)
    | none => text)

/-- The symbol that an argument is or has the code of. -/
def writeCharacter : Value → Except FormatFault Written
  | .text text => if textLength text = 1 then .ok (.ofText text) else .error .characterKind
  | value =>
    let code? : Option Int := match value with
      | .int code => some code
      | .bool truth => some (if truth then 1 else 0)
      | _ => none
    match code? with
    | some code =>
      if code < 0 ∨ 0x10FFFF < code then .error .characterRange
      else .ok (.ofText (ofSymbols [.ofCode code.toNat]))
    | none => .error .characterKind

/-! ### Integers -/

/-- The integer of an argument in base ten, a fraction cut off. -/
def decimalArgument (letter : Char) (argument : Value) : Except FormatFault Int :=
  match argument with
  | .int _ | .bool _ | .real _ => (convertInteger argument).mapError .conversion
  | other => .error (.numberKind letter other.kindName)

/-- The integer of an argument in another base. -/
def codedArgument (letter : Char) (argument : Value) : Except FormatFault Int :=
  match argument with
  | .int value => .ok value
  | .bool truth => .ok (if truth then 1 else 0)
  | other => .error (.integerKind letter other.kindName)

/-- What keeps an integer from being written in a base: in base ten there may be too many digits. -/
def integerFault? (base : Nat) (value : Int) : Option FormatFault :=
  if base = 10 ∧ isTooLong value then some (.conversion .writing) else none

/-- An integer with a sign, a mark and at least as many digits as its precision. -/
def writeInteger (flags : Flags) (precision : Option Nat) (mark : String)
    (digits : Nat → List Char) (value : Int) : Written :=
  let all := digits value.natAbs
  let zeros := List.replicate (precision.getD 0 - all.length) '0'
  ⟨flags.sign (value < 0), if flags.marked then mark else "", String.ofList (zeros ++ all), true⟩

/-! ### Numbers with a point -/

/-- The number of an argument. -/
def realArgument : Value → Except FormatFault Binary64
  | .real value => .ok value
  | .int value =>
    match Binary64.ofInt? value with
    | some number => .ok number
    | none => .error .realSize
  | .bool truth => .ok (.ofRatio false (if truth then 1 else 0) 1)
  | other => .error (.realKind other.kindName)

/-- The usual precision of numbers. -/
def usualPrecision : Nat := 6

/-- The text of a quotient in the form of a letter, in small letters. -/
def quotientText (letter : Char) (marked : Bool) (precision numerator denominator : Nat) : String :=
  if letter = 'f' then fixedText marked precision numerator denominator
  else if letter = 'e' then scientificText marked precision numerator denominator
  else generalText marked precision numerator denominator

/-- A number in the form of a letter, in small letters. -/
def writeReal (flags : Flags) (precision : Option Nat) (letter : Char) (number : Binary64) :
    Written :=
  match number with
  | .notANumber => ⟨flags.sign false, "", "nan", true⟩
  | .infinite negative => ⟨flags.sign negative, "", "inf", true⟩
  | .finite negative _ _ =>
    let (numerator, denominator) := number.ratio?.getD (0, 1)
    let body :=
      quotientText letter flags.marked (precision.getD usualPrecision) numerator.natAbs denominator
    ⟨flags.sign negative, "", body, true⟩

/-- The same in capitals. -/
def Written.inCapitals (written : Written) : Written :=
  { written with mark := written.mark.map Char.toUpper, body := written.body.map Char.toUpper }

/-! ### Places -/

/-- The most characters that a place can be brought to. -/
def greatestLength : Nat := 268435456

/-- The most digits that an integer can be brought to. -/
def greatestDigits : Nat := 2147483644

/-- An argument in the form of a letter, with its fault if the letter is unknown. -/
def writeArgument (flags : Flags) (precision : Option Nat) (position : Nat) (letter : Symbol)
    (argument : Value) : Except FormatFault Written :=
  let text (shown : Except ShowFault String) : Except FormatFault Written :=
    (shown.mapError .ofShowFault).map fun text => writeText text precision
  let number {Number : Type} (read : Except FormatFault Number)
      (fault? : Number → Option FormatFault) (write : Number → Written) (limit : Nat) :
      Except FormatFault Written := do
    let number ← read
    if limit < precision.getD 0 then .error .longNumber
    else
      match fault? number with
      | some fault => .error fault
      | none => if greatestLength < precision.getD 0 then .error .tooLong else .ok (write number)
  let integer (letter : Char) (mark : String) (base : Nat) : Except FormatFault Written :=
    let read := if base = 10 then decimalArgument letter argument else codedArgument letter argument
    number read (integerFault? base) (writeInteger flags precision mark (Nat.toDigits base))
      greatestDigits
  let real (letter : Char) : Except FormatFault Written :=
    number (realArgument argument) (fun _ => none) (writeReal flags precision letter)
      precisionLimit.greatest
  match letter with
  | .character 's' => text argument.written
  | .character 'r' => text argument.display
  | .character 'a' => text (argument.display.map plainLetters)
  | .character 'c' => writeCharacter argument
  | .character 'd' => integer 'd' "" 10
  | .character 'i' => integer 'i' "" 10
  | .character 'u' => integer 'u' "" 10
  | .character 'o' => integer 'o' "0o" 8
  | .character 'x' => integer 'x' "0x" 16
  | .character 'X' => (integer 'X' "0x" 16).map Written.inCapitals
  | .character 'e' => real 'e'
  | .character 'f' => real 'f'
  | .character 'g' => real 'g'
  | .character 'E' => (real 'e').map Written.inCapitals
  | .character 'F' => (real 'f').map Written.inCapitals
  | .character 'G' => (real 'g').map Written.inCapitals
  | unknown => .error (.unknownPlace unknown position)

/-- A place with its argument, and the arguments that are left. -/
def fillPlace (place : Place) (position : Nat) (arguments : Arguments) :
    Except FormatFault (String × Arguments) := do
  let arguments ← arguments.select place.key
  let (width, arguments) ← arguments.extent widthLimit place.width
  let (precision, arguments) ← arguments.extent precisionLimit place.precision
  match place.letter with
  | none => .error .unfinished
  | some letter => do
    let (argument, arguments) ← arguments.take
    let written ← writeArgument place.flags (precision.map Int.toNat) position letter argument
    let width := width.getD 0
    let flags :=
      { place.flags with leftAligned := place.flags.leftAligned || decide (width < 0) }
    if greatestLength < width.natAbs then .error .tooLong
    else return (written.padded flags width.natAbs, arguments)

/-! ### Messages -/

/-- The pieces of a format with their arguments. -/
def fillPieces : List Piece → Arguments → Except FormatFault String
  | [], arguments => if arguments.remain then .error .tooMany else .ok ""
  | .character character :: rest, arguments => do
    let filled ← fillPieces rest arguments
    return String.singleton character ++ filled
  | .place place position :: rest, arguments => do
    let (written, arguments) ← fillPlace place position arguments
    let filled ← fillPieces rest arguments
    return written ++ filled

/-- A message from its format. A format without arguments is taken as it is. -/
def fill (format : String) (arguments : List Value) : Except FormatFault String :=
  if arguments.isEmpty then .ok format
  else fillPieces (pieces format) (.ofList arguments)

end WorkQuery.Log
