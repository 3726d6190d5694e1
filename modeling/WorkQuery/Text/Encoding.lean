/-
This file holds the encodings of texts in bytes. Texts are sent in the form with units of eight
bits. Bytes are read in that form, with the replacement character for those that do not fit it;
zeros among the first bytes give away the forms with wider units, in which half of a surrogate pair
can stand alone. In addresses a byte is written as a percent sign and two digits in base sixteen.
-/

import WorkQuery.Text.Digit
import WorkQuery.Text.Symbol

namespace WorkQuery.Text

/-! ### Units of eight bits -/

/-- The bytes of a text. -/
def textBytes (text : String) : List Nat :=
  (shownCharacters text).toList.flatMap fun character =>
    (String.utf8EncodeChar character).map UInt8.toNat

/-- The character that stands for bytes that do not fit. -/
def replacement : Char := '\uFFFD'

/-- A character that is being read: the bits that are known, how many bytes are missing, and the
bounds of the next one. -/
structure Pending where
  bits : Nat
  missing : Nat
  least : Nat
  greatest : Nat
deriving DecidableEq, Repr

/-- The character that a first byte opens, if it takes more than that byte. -/
def Pending.ofLead? (byte : Nat) : Option Pending :=
  if byte < 0xC2 then none
  else if byte ≤ 0xDF then some ⟨byte - 0xC0, 1, 0x80, 0xBF⟩
  else if byte = 0xE0 then some ⟨0, 2, 0xA0, 0xBF⟩
  else if byte = 0xED then some ⟨0xD, 2, 0x80, 0x9F⟩
  else if byte ≤ 0xEF then some ⟨byte - 0xE0, 2, 0x80, 0xBF⟩
  else if byte = 0xF0 then some ⟨0, 3, 0x90, 0xBF⟩
  else if byte ≤ 0xF3 then some ⟨byte - 0xF0, 3, 0x80, 0xBF⟩
  else if byte = 0xF4 then some ⟨4, 3, 0x80, 0x8F⟩
  else none

/-- The characters that a first byte completes, and the one that is then being read. -/
def firstByte (byte : Nat) : List Char × Option Pending :=
  if byte < 0x80 then ([Char.ofNat byte], none)
  else
    match Pending.ofLead? byte with
    | some pending => ([], some pending)
    | none => ([replacement], none)

/-- The characters that a byte completes, and the one that is then being read. A byte that does not
continue the character being read starts anew. -/
def nextByte (pending : Option Pending) (byte : Nat) : List Char × Option Pending :=
  match pending with
  | none => firstByte byte
  | some pending =>
    if pending.least ≤ byte ∧ byte ≤ pending.greatest then
      let bits := 0x40 * pending.bits + (byte - 0x80)
      if pending.missing ≤ 1 then ((Symbol.ofCode bits).written, none)
      else ([], some ⟨bits, pending.missing - 1, 0x80, 0xBF⟩)
    else
      let (characters, pending) := firstByte byte
      (replacement :: characters, pending)

/-- What is left of a character when no byte follows. -/
def unfinished (pending : Option Pending) : List Char :=
  if pending.isSome then [replacement] else []

/-- A text in which every byte of a half is replaced; a half has three. -/
def withoutHalves (text : String) : String :=
  String.ofList ((symbols text.toList).flatMap fun
    | .character character => (Symbol.character character).written
    | .half _ => [replacement, replacement, replacement])

/-! ### Parts of an address -/

/-- The runs of characters between those that separate them. -/
def runsBetween (separator : Char) : List Char → List (List Char)
  | [] => [[]]
  | first :: rest =>
    if first = separator then [] :: runsBetween separator rest
    else
      match runsBetween separator rest with
      | [] => [[first]]
      | run :: runs => (first :: run) :: runs

/-- The parts of an address between the characters that separate them. -/
def partsBetween (separator : Char) (text : String) : List String :=
  (runsBetween separator text.toList).map String.ofList

/-! ### Escaped bytes -/

/-- The characters of a part of an address, with the bytes that percent signs escape read as
text. -/
def unescaped (pending : Option Pending) : List Char → List Char
  | '%' :: high :: low :: rest =>
    match hexDigit? high, hexDigit? low with
    | some high, some low =>
      let (characters, pending) := nextByte pending (0x10 * high + low)
      characters ++ unescaped pending rest
    | _, _ => unfinished pending ++ '%' :: unescaped none (high :: low :: rest)
  | character :: rest => unfinished pending ++ character :: unescaped none rest
  | [] => unfinished pending

/-- A part of an address as text. -/
def percentDecoded (text : String) : String :=
  String.ofList (unescaped none text.toList)

/-! ### Wider units -/

/-- A form with wider units: how many bytes a unit has, and whether the greatest comes first. -/
structure WideForm where
  size : Nat
  greatestFirst : Bool
deriving DecidableEq, Repr

/-- The wider form that zeros among the first bytes give away. -/
def wideForm? : List Nat → Option WideForm
  | first :: second :: third :: fourth :: _ =>
    if first = 0 then some ⟨if second = 0 then 4 else 2, true⟩
    else if second = 0 then some ⟨if third = 0 ∧ fourth = 0 then 4 else 2, false⟩
    else none
  | [first, second] =>
    if first = 0 then some ⟨2, true⟩ else if second = 0 then some ⟨2, false⟩ else none
  | _ => none

/-- The value of the bytes of a unit. -/
def WideForm.unit (form : WideForm) (bytes : List Nat) : Nat :=
  (if form.greatestFirst then bytes else bytes.reverse).foldl
    (fun value byte => 0x100 * value + byte) 0

/-- The units of bytes in a form, if no byte is left over. `current` holds the bytes of the unit
being read, the last first. -/
def WideForm.units? (form : WideForm) (current : List Nat) : List Nat → Option (List Nat)
  | [] => if current.isEmpty then some [] else none
  | byte :: bytes =>
    let current := byte :: current
    if form.size ≤ current.length then
      (units? form [] bytes).map (form.unit current.reverse :: ·)
    else units? form current bytes

/-- The symbols of units of sixteen bits; a pair of halves is one character. -/
def symbolsOfUnits : List Nat → List Symbol
  | opening :: closing :: rest =>
    if opensPair opening && closesPair closing then
      .ofCode (pairCode opening closing) :: symbolsOfUnits rest
    else .ofCode opening :: symbolsOfUnits (closing :: rest)
  | [last] => [.ofCode last]
  | [] => []

/-- The symbols of bytes in a form, if they are all codes of symbols. -/
def WideForm.symbols? (form : WideForm) (bytes : List Nat) : Option (List Symbol) := do
  let units ← form.units? [] bytes
  if form.size = 2 then return symbolsOfUnits units
  else
    guard (units.all (· ≤ 0x10FFFF))
    return units.map .ofCode

/-! ### Texts that are sent -/

/-- A text without the mark that may tell its encoding. -/
def withoutEncodingMark (text : String) : String :=
  match text.toList with
  | '\uFEFF' :: rest => String.ofList rest
  | _ => text

/-- The text that is read where a text was sent, if its bytes can be read: the same text, unless
zeros among its first bytes are taken for a wider form. -/
def received? (text : String) : Option String :=
  let bytes := textBytes text
  match wideForm? bytes with
  | some form => (form.symbols? bytes).map ofSymbols
  | none => some (withoutEncodingMark text)

end WorkQuery.Text
