/-
This file reads double-precision numbers from text: digits with an optional point and exponent, or
a name for infinity or for what is no number. `readNumber` is the lenient reader, for numbers that
people type: it takes blanks around the number, underscores between digits and the decimal digits
of any script.
-/

import WorkQuery.Number.Binary64
import WorkQuery.Number.Integer

namespace WorkQuery.Number

open Text

/-! ### Numerals -/

/-- The value of a run of ASCII digits. -/
def digitsValue (digits : List Char) : Nat :=
  ofDigits (digits.map fun digit => digit.toNat - '0'.toNat)

/-- The exponent after the letter `e`: a sign if wanted, then at least one digit. -/
def exponentValue? (characters : List Char) : Option Int :=
  let (negative, digits) := splitSign characters
  if digits.isEmpty || !digits.all Char.isDigit then none
  else some (signed negative (digitsValue digits))

/-- A numeral without sign: its digits as a number, and the power of ten that it is multiplied
with. There is at least one digit before or after the point. -/
def numeral? (characters : List Char) : Option (Nat × Int) :=
  let whole := characters.takeWhile Char.isDigit
  let afterWhole := characters.dropWhile Char.isDigit
  let (fraction, afterFraction) := match afterWhole with
    | '.' :: rest => (rest.takeWhile Char.isDigit, rest.dropWhile Char.isDigit)
    | rest => ([], rest)
  let shift? := match afterFraction with
    | [] => some 0
    | letter :: rest => if letter = 'e' ∨ letter = 'E' then exponentValue? rest else none
  if whole.isEmpty && fraction.isEmpty then none
  else shift?.map fun shift => (digitsValue (whole ++ fraction), shift - fraction.length)

/-! ### Numbers -/

/-- The number named by a word: infinity or no number, in letters of any case. -/
def namedNumber? (negative : Bool) (word : List Char) : Option Binary64 :=
  match String.ofList (word.map Char.toLower) with
  | "inf" => some (.infinite negative)
  | "infinity" => some (.infinite negative)
  | "nan" => some .notANumber
  | _ => none

/-- The number that characters of ASCII write, with nothing around it. -/
def plainNumber? (characters : List Char) : Option Binary64 :=
  let (negative, rest) := splitSign characters
  match numeral? rest with
  | some (digits, exponent) => some (.ofDecimal negative digits exponent)
  | none => namedNumber? negative rest

/-- Underscores taken out from between digits; none if one stands anywhere else. The first argument
tells whether the character before was a digit. -/
def withoutUnderscores? : Bool → List Char → Option (List Char)
  | _, [] => some []
  | afterDigit, '_' :: next :: rest =>
    if afterDigit && next.isDigit then (withoutUnderscores? true rest).map (next :: ·) else none
  | _, ['_'] => none
  | _, character :: rest =>
    (withoutUnderscores? character.isDigit rest).map (character :: ·)

/-- A decimal digit of any script as the ASCII digit of the same value; other characters stay. -/
def asciiForm (character : Char) : Char :=
  match decimalDigit? character with
  | some value => Char.ofNat ('0'.toNat + value)
  | none => character

/-- The number that a text writes. -/
def readNumber? (text : String) : Option Binary64 := do
  let characters ← withoutUnderscores? false ((trim isSpace text.toList).map asciiForm)
  plainNumber? characters

end WorkQuery.Number
