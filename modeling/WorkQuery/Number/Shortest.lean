/-
This file writes double-precision numbers. The shortest text of a number has the fewest digits that
read back as it, and among those the digits nearest to it; it is positional while the decimal
exponent lies between -4 and 15 and scientific beyond, keeps `.0` on whole numbers, and gives the
exponent a sign and at least two digits. The fixed-precision text serves comparisons that turn a
number into text.
-/

import WorkQuery.Number.Binary64
import WorkQuery.Number.Integer

namespace WorkQuery.Number

/-! ### Decimals -/

/-- The decimal number `digits * 10 ^ exponent`. -/
structure Decimal where
  digits : Nat
  exponent : Int
deriving DecidableEq, Repr

namespace Binary64

/-- The exact decimal expansion of `significand * 2 ^ exponent`. -/
def exactDecimal (significand : Nat) (exponent : Int) : Decimal :=
  if 0 ≤ exponent then ⟨significand * Nat.pow 2 exponent.toNat, 0⟩
  else ⟨significand * Nat.pow 5 (-exponent).toNat, exponent⟩

/-- The two neighbours of an exact decimal on the grid of numbers with `count` digits, the nearer
one first and a tie to the even one. Fewer digits than the grid has are left as they are. -/
def neighbours (exact : Decimal) (count : Nat) : List Decimal :=
  let cut := (Nat.toDigits 10 exact.digits).length - count
  let unit := Nat.pow 10 cut
  let below := exact.digits / unit
  let rest := exact.digits % unit
  let lower : Decimal := ⟨below, exact.exponent + cut⟩
  let upper : Decimal := ⟨below + 1, exact.exponent + cut⟩
  if 2 * rest < unit ∨ (2 * rest = unit ∧ below % 2 = 0) then [lower, upper] else [upper, lower]

/-- The most digits that a shortest decimal needs. -/
def mostDigits : Nat := 17

/-- The shortest decimal that reads back as `significand * 2 ^ exponent`. -/
def shortest (significand : Nat) (exponent : Int) : Decimal :=
  let exact := exactDecimal significand exponent
  let candidates := ((List.range mostDigits).map (· + 1)).flatMap (neighbours exact)
  let found := candidates.find? fun candidate =>
    ofDecimal false candidate.digits candidate.exponent = .finite false significand exponent
  found.getD exact

/-! ### Texts -/

/-- The digits of a decimal without the zeros at their end; a zero keeps one digit. -/
def significantDigits (digits : Nat) : List Char :=
  match ((Nat.toDigits 10 digits).reverse.dropWhile (· == '0')).reverse with
  | [] => ['0']
  | kept => kept

/-- An exponent with its sign and at least two digits. -/
def exponentText (exponent : Int) : String :=
  (if exponent < 0 then "-" else "+") ++ paddedText 2 exponent.natAbs

/-- A decimal written out: positional while its exponent in scientific notation is at least -4 and
below `scientificFrom`, scientific otherwise. Scientific notation with a single digit has a point
only if `keepPoint` is set. -/
def decimalText (scientificFrom : Int) (keepPoint : Bool) (decimal : Decimal) : String :=
  let all := Nat.toDigits 10 decimal.digits
  let digits := significantDigits decimal.digits
  let point : Int := all.length + decimal.exponent
  let order := point - 1
  if -4 ≤ order ∧ order < scientificFrom then
    if point ≤ 0 then
      "0." ++ String.ofList (List.replicate (-point).toNat '0' ++ digits)
    else if digits.length ≤ point.toNat then
      String.ofList (digits ++ List.replicate (point.toNat - digits.length) '0') ++ ".0"
    else
      String.ofList (digits.take point.toNat) ++ "." ++ String.ofList (digits.drop point.toNat)
  else
    let fraction := match digits.drop 1 with
      | [] => if keepPoint then ".0" else ""
      | rest => "." ++ String.ofList rest
    String.ofList (digits.take 1) ++ fraction ++ "e" ++ exponentText order

/-- The shortest text of a number. -/
def text : Binary64 → String
  | .notANumber => "nan"
  | .infinite negative => if negative then "-inf" else "inf"
  | .finite negative significand exponent =>
    let magnitude :=
      if significand = 0 then "0.0"
      else decimalText 16 false (shortest significand exponent)
    if negative then "-" ++ magnitude else magnitude

/-- The text of a number with at most fifteen digits. -/
def storedText : Binary64 → String
  | .notANumber => ""
  | .infinite negative => if negative then "-Inf" else "Inf"
  | .finite negative significand exponent =>
    let magnitude :=
      if significand = 0 then "0.0"
      else
        match neighbours (exactDecimal significand exponent) 15 with
        | nearest :: _ => decimalText 15 true nearest
        | [] => "0.0"
    if negative then "-" ++ magnitude else magnitude

end Binary64

end WorkQuery.Number
