/-
This file writes numbers with a given number of digits. Fixed texts count the digits after the
point, scientific texts those after the first digit, and general texts all of them; a general text
is positional unless that takes more digits than it has, and leaves out the zeros at its end. The
last digit is rounded to nearest, a tie to the even neighbour. Signs are written elsewhere.
-/

import WorkQuery.Number.Shortest

namespace WorkQuery.Number

/-! ### Positional texts -/

/-- Whole and decimal digits with a point between them. A point that nothing follows is written only
if it is kept. -/
def pointed (keepPoint : Bool) (whole fraction : List Char) : String :=
  String.ofList (whole ++ (if fraction.isEmpty && !keepPoint then [] else '.' :: fraction))

/-- The most decimal places that a double has, whether they are counted from its point or from its
first digit. What is asked for beyond them is zeros. -/
def greatestPlaces : Nat := 1074

/-- The zeros beyond the places that a double has. -/
def zerosBeyond (places : Nat) : List Char :=
  List.replicate (places - greatestPlaces) '0'

/-- A quotient that is a double, with some digits after the point. -/
def fixedText (keepPoint : Bool) (places numerator denominator : Nat) : String :=
  let exact := min places greatestPlaces
  let rounded := Binary64.roundedQuotient (numerator * Nat.pow 10 exact) denominator
  let all := (paddedText (exact + 1) rounded).toList
  let whole := all.length - exact
  pointed keepPoint (all.take whole) (all.drop whole ++ zerosBeyond places)

/-! ### Scientific texts -/

/-- The exponent of the first digit of a quotient; zero for a quotient of zero. -/
def orderOf (numerator denominator : Nat) : Int :=
  if numerator = 0 then 0
  else
    let guess : Int :=
      (Nat.toDigits 10 numerator).length - ((Nat.toDigits 10 denominator).length : Int)
    let reaches :=
      if 0 ≤ guess then denominator * Nat.pow 10 guess.toNat ≤ numerator
      else denominator ≤ numerator * Nat.pow 10 (-guess).toNat
    if reaches then guess else guess - 1

/-- A quotient rounded to some digits after the first: all its digits as one number, and the
exponent of the first of them. -/
def roundedOrder (places numerator denominator : Nat) : Nat × Int :=
  let order := orderOf numerator denominator
  let shift := places - order
  let digits :=
    if 0 ≤ shift then
      Binary64.roundedQuotient (numerator * Nat.pow 10 shift.toNat) denominator
    else Binary64.roundedQuotient numerator (denominator * Nat.pow 10 (-shift).toNat)
  if digits = Nat.pow 10 (places + 1) then (Nat.pow 10 places, order + 1) else (digits, order)

/-- The text of digits, the first of which has an exponent. -/
def scientificOf (keepPoint : Bool) (digits : List Char) (order : Int) : String :=
  pointed keepPoint (digits.take 1) (digits.drop 1) ++ "e" ++ Binary64.exponentText order

/-- A quotient that is a double, with one digit before the point, some after it, and an exponent. -/
def scientificText (keepPoint : Bool) (places numerator denominator : Nat) : String :=
  let exact := min places greatestPlaces
  let (digits, order) := roundedOrder exact numerator denominator
  scientificOf keepPoint ((paddedText (exact + 1) digits).toList ++ zerosBeyond places) order

/-! ### General texts -/

/-- Characters without the zeros at their end. -/
def withoutFinalZeros (characters : List Char) : List Char :=
  (characters.reverse.dropWhile (· == '0')).reverse

/-- A quotient that is a double, with as many digits as asked for, at least one. Zeros at the end of
the fraction, and a point before nothing else, stand only if they are kept. -/
def generalText (keepZeros : Bool) (count numerator denominator : Nat) : String :=
  let exact := min (count - 1) greatestPlaces
  let (digits, order) := roundedOrder exact numerator denominator
  let all := (paddedText (exact + 1) digits).toList ++ zerosBeyond (count - 1)
  let shown (fraction : List Char) : List Char :=
    if keepZeros then fraction else withoutFinalZeros fraction
  if order < -4 ∨ (max count 1 : Nat) ≤ order then
    scientificOf keepZeros (all.take 1 ++ shown (all.drop 1)) order
  else if order < 0 then
    pointed keepZeros ['0'] (shown (List.replicate (-order - 1).toNat '0' ++ all))
  else
    let whole := order.toNat + 1
    pointed keepZeros (all.take whole) (shown (all.drop whole))

end WorkQuery.Number
