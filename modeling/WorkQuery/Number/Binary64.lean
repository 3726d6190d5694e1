/-
This file holds double-precision numbers, exactly. A number is an infinity, not a number at all, or
a sign with `significand * 2 ^ exponent`; finite numbers are kept in their one normal form, so that
two of them are equal as terms exactly when they are the same double. Every number enters through
`ofRatio`, which rounds a quotient of natural numbers to the nearest double and a tie to the even
neighbour, in integer arithmetic throughout.
-/

namespace WorkQuery.Number

/-- A double-precision number. -/
inductive Binary64
  | notANumber
  | infinite (negative : Bool)
  | finite (negative : Bool) (significand : Nat) (exponent : Int)
deriving DecidableEq, Repr

namespace Binary64

/-! ### Rounding -/

/-- The least exponent: that of zero and of the smallest numbers. -/
def leastExponent : Int := -1074

/-- The greatest exponent of a finite number. -/
def greatestExponent : Int := 971

/-- Zero, with its sign. -/
def zero (negative : Bool) : Binary64 := .finite negative 0 leastExponent

/-- A quotient rounded to the nearest integer, a tie to the even one. -/
def roundedQuotient (numerator denominator : Nat) : Nat :=
  let quotient := numerator / denominator
  let remainder := numerator % denominator
  if denominator < 2 * remainder ∨ (denominator = 2 * remainder ∧ quotient % 2 = 1) then
    quotient + 1
  else quotient

/-- The quotient `numerator / (denominator * 2 ^ exponent)` as a quotient of natural numbers. -/
def scaled (numerator denominator : Nat) (exponent : Int) : Nat × Nat :=
  if 0 ≤ exponent then (numerator, denominator * Nat.pow 2 exponent.toNat)
  else (numerator * Nat.pow 2 (-exponent).toNat, denominator)

/-- The exponent at which a positive quotient has a significand of fifty-three bits, or the least
exponent if that is larger. -/
def exponentOf (numerator denominator : Nat) : Int :=
  let guess := (numerator.log2 : Int) - denominator.log2 - 52
  let (above, below) := scaled numerator denominator guess
  max (if above < below * Nat.pow 2 52 then guess - 1 else guess) leastExponent

/-- The significand of a quotient at an exponent, rounded. -/
def significandAt (numerator denominator : Nat) (exponent : Int) : Nat :=
  roundedQuotient (scaled numerator denominator exponent).1
    (scaled numerator denominator exponent).2

/-- The double of a rounded significand, which may have grown by a bit; beyond the finite numbers
lies infinity. -/
def carried (negative : Bool) (significand : Nat) (exponent : Int) : Binary64 :=
  if significand = Nat.pow 2 53 then
    if greatestExponent < exponent + 1 then .infinite negative
    else .finite negative (Nat.pow 2 52) (exponent + 1)
  else if greatestExponent < exponent then .infinite negative
  else .finite negative significand exponent

/-- The double nearest to a quotient, with a sign. -/
def ofRatio (negative : Bool) (numerator denominator : Nat) : Binary64 :=
  if numerator = 0 then zero negative
  else
    let exponent := exponentOf numerator denominator
    carried negative (significandAt numerator denominator exponent) exponent

/-- The double nearest to an integer; none if the integer lies beyond the finite numbers. -/
def ofInt? (value : Int) : Option Binary64 :=
  match ofRatio (decide (value < 0)) value.natAbs 1 with
  | .infinite _ => none
  | number => some number

/-- The power of ten beyond which every number is infinite, and below whose inverse every number
is zero. -/
def decimalReach : Int := 400

/-- The double nearest to `digits * 10 ^ exponent`, with a sign. -/
def ofDecimal (negative : Bool) (digits : Nat) (exponent : Int) : Binary64 :=
  let magnitude := (Nat.toDigits 10 digits).length + exponent
  if digits = 0 then zero negative
  else if decimalReach < magnitude then .infinite negative
  else if magnitude < -decimalReach then zero negative
  else if 0 ≤ exponent then ofRatio negative (digits * Nat.pow 10 exponent.toNat) 1
  else ofRatio negative digits (Nat.pow 10 (-exponent).toNat)

/-! ### Reading off -/

/-- The exact value of a finite number as a signed numerator over a power of two. -/
def ratio? : Binary64 → Option (Int × Nat)
  | .finite negative significand exponent =>
    let signedSignificand : Int := if negative then -(significand : Int) else significand
    if 0 ≤ exponent then some (signedSignificand * (Nat.pow 2 exponent.toNat : Nat), 1)
    else some (signedSignificand, Nat.pow 2 (-exponent).toNat)
  | _ => none

/-- Whether the number is neither infinite nor no number. -/
def isFinite : Binary64 → Bool
  | .finite .. => true
  | _ => false

/-- The integer that a finite number is equal to, if there is one. -/
def toInt? (number : Binary64) : Option Int :=
  match number.ratio? with
  | some (numerator, denominator) =>
    if numerator % denominator = 0 then some (numerator / denominator) else none
  | none => none

/-- The integer part of a finite number: what is left when its fraction is cut off. -/
def truncated? (number : Binary64) : Option Int :=
  number.ratio?.map fun (numerator, denominator) => numerator.tdiv denominator

/-- The greatest integer that is not above a finite number. -/
def floor? (number : Binary64) : Option Int :=
  number.ratio?.map fun (numerator, denominator) => numerator.fdiv denominator

/-- The least integer that is not below a finite number. -/
def ceiling? (number : Binary64) : Option Int :=
  number.ratio?.map fun (numerator, denominator) => -((-numerator).fdiv denominator)

/-- Whether the number is a zero, of either sign. -/
def isZero : Binary64 → Bool
  | .finite _ significand _ => significand == 0
  | _ => false

/-- How two numbers compare by value; nothing is comparable with what is no number. -/
def compare? : Binary64 → Binary64 → Option Ordering
  | .notANumber, _ => none
  | _, .notANumber => none
  | .infinite left, .infinite right =>
    some (if left = right then .eq else if left then .lt else .gt)
  | .infinite left, _ => some (if left then .lt else .gt)
  | _, .infinite right => some (if right then .gt else .lt)
  | left, right =>
    match left.ratio?, right.ratio? with
    | some (above, below), some (above', below') =>
      some (compare (above * below') (above' * below))
    | _, _ => none

end Binary64

end WorkQuery.Number
