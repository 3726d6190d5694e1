/-
This file reads and writes integers as people type them. A written integer may be surrounded by
blanks, carry a sign, group its digits by single underscores, and use the decimal digits of any
script; a run of more than `digitLimit` digits is refused whatever follows it. Integers are written
in ASCII digits with a minus sign where they are negative.
-/

import WorkQuery.Text.Blank
import WorkQuery.Text.Digit

namespace WorkQuery.Number

open Text

/-! ### Digits -/

/-- The number that a list of digits stands for, the most significant digit first. -/
def ofDigits (digits : List Nat) : Nat :=
  digits.foldl (fun value digit => 10 * value + digit) 0

/-- The digits of a numeral in which single underscores may stand between two digits. -/
def groupedDigits? (digit? : Char → Option Nat) : List Char → Option (List Nat)
  | [] => none
  | [last] => (digit? last).map ([·])
  | first :: '_' :: rest => do
    let digit ← digit? first
    let digits ← groupedDigits? digit? rest
    return digit :: digits
  | first :: rest => do
    let digit ← digit? first
    let digits ← groupedDigits? digit? rest
    return digit :: digits

/-- Whether a number carries a minus sign, and what follows the sign if there is one. -/
def splitSign : List Char → Bool × List Char
  | '-' :: rest => (true, rest)
  | '+' :: rest => (false, rest)
  | characters => (false, characters)

/-- The integer of a sign and a magnitude. -/
def signed (negative : Bool) (magnitude : Nat) : Int :=
  if negative then -(magnitude : Int) else magnitude

/-! ### Reading -/

/-- The longest numeral that is read or written. -/
def digitLimit : Nat := 4300

/-- Why a text is not read as an integer. -/
inductive IntegerFault
  | malformed
  | tooManyDigits (count : Nat)
deriving DecidableEq, Repr

/-- The magnitude that the characters after the sign write. The leading run of digits and
underscores decides first: it has to be well grouped, then short enough, and only then does it
matter that nothing follows it. -/
def readMagnitude (characters : List Char) : Except IntegerFault Nat :=
  let run := characters.takeWhile fun character =>
    character == '_' || (decimalDigit? character).isSome
  match groupedDigits? decimalDigit? run with
  | none => .error .malformed
  | some digits =>
    if digitLimit < digits.length then .error (.tooManyDigits digits.length)
    else if run.length < characters.length then .error .malformed
    else .ok (ofDigits digits)

/-- The integer that the characters write, blanks around it aside. -/
def readIntegerOf (characters : List Char) : Except IntegerFault Int :=
  let (negative, rest) := splitSign (trim isSpace characters)
  (readMagnitude rest).map (signed negative)

/-- The integer that a text writes. -/
def readInteger (text : String) : Except IntegerFault Int :=
  readIntegerOf text.toList

/-! ### Writing -/

/-- The decimal digits of a natural number. -/
def naturalText (value : Nat) : String :=
  String.ofList (Nat.toDigits 10 value)

/-- An integer in decimal digits, with a minus sign if it is negative. -/
def integerText (value : Int) : String :=
  if value < 0 then "-" ++ naturalText value.natAbs else naturalText value.natAbs

/-- Whether an integer has more digits than are written where a limit is set. -/
def isTooLong (value : Int) : Bool :=
  digitLimit < (Nat.toDigits 10 value.natAbs).length

/-- The decimal digits of a natural number, padded with zeros to a width. -/
def paddedText (width value : Nat) : String :=
  let digits := Nat.toDigits 10 value
  String.ofList (List.replicate (width - digits.length) '0' ++ digits)

/-! ### Small facts -/

theorem ofDigits_append_single (digits : List Nat) (digit : Nat) :
    ofDigits (digits ++ [digit]) = 10 * ofDigits digits + digit := by
  simp [ofDigits]

theorem signed_natAbs (value : Int) : signed (decide (value < 0)) value.natAbs = value := by
  unfold signed
  by_cases negative : value < 0
  · rw [if_pos (decide_eq_true negative)]
    omega
  · rw [if_neg (by rw [decide_eq_false negative]; exact Bool.false_ne_true)]
    omega

end WorkQuery.Number
