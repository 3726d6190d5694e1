/-
This file proves that the shortest decimal of a double reads back as that double. A decimal reads as
the double nearest to its value however the value is shared between digits and exponent
(`ofDecimal_mul_pow`). The search for a short decimal only accepts one that reads back, and where it
finds none the exact expansion does (`ofDecimal_exactDecimal`), because it lies well within the
reach of decimals.
-/

import WorkQuery.Number.Shortest
import WorkQuery.Proofs.IntegerText
import WorkQuery.Proofs.Rounding

namespace WorkQuery.Number.Binary64

/-! ### Decimals and their values -/

/-- The power of ten just above the leading digit of a decimal. -/
def magnitudeOf (digits : Nat) (exponent : Int) : Int :=
  (Nat.toDigits 10 digits).length + exponent

theorem ofDecimal_of_pos (negative : Bool) {digits : Nat} (positive : 0 < digits) (exponent : Int) :
    ofDecimal negative digits exponent =
      if decimalReach < magnitudeOf digits exponent then .infinite negative
      else if magnitudeOf digits exponent < -decimalReach then zero negative
      else if 0 ≤ exponent then ofRatio negative (digits * Nat.pow 10 exponent.toNat) 1
      else ofRatio negative digits (Nat.pow 10 (-exponent).toNat) := by
  rw [ofDecimal, if_neg (Nat.pos_iff_ne_zero.mp positive)]
  rfl

theorem zpow_eq_inv {base : ℚ} {exponent : Int} (negative : exponent < 0) :
    base ^ exponent = (base ^ (-exponent).toNat)⁻¹ := by
  rw [← zpow_natCast, ← zpow_neg, Int.toNat_of_nonneg (by omega), neg_neg]

theorem zpow_eq_pow {base : ℚ} {exponent : Int} (nonnegative : 0 ≤ exponent) :
    base ^ exponent = base ^ exponent.toNat := by
  rw [← zpow_natCast, Int.toNat_of_nonneg nonnegative]

/-- The value of a positional number is a quotient of natural numbers. -/
theorem exists_quotient (digits base : Nat) (positive : 0 < base) (exponent : Int) :
    ∃ numerator denominator : Nat, 0 < denominator ∧
      (digits : ℚ) * (base : ℚ) ^ exponent = numerator / denominator := by
  by_cases nonnegative : 0 ≤ exponent
  · refine ⟨digits * base ^ exponent.toNat, 1, Nat.one_pos, ?_⟩
    rw [zpow_eq_pow nonnegative]
    push_cast
    rw [div_one]
  · refine ⟨digits, base ^ (-exponent).toNat, Nat.pow_pos positive, ?_⟩
    rw [zpow_eq_inv (by omega), ← div_eq_mul_inv]
    push_cast
    rfl

/-- A decimal within reach is the rounded quotient of any two numbers that have its value. -/
theorem ofDecimal_eq_ofRatio (negative : Bool) {digits numerator denominator : Nat}
    {exponent : Int} (positive : 0 < digits) (positive' : 0 < denominator)
    (upper : magnitudeOf digits exponent ≤ decimalReach)
    (lower : -decimalReach ≤ magnitudeOf digits exponent)
    (value : (digits : ℚ) * 10 ^ exponent = numerator / denominator) :
    ofDecimal negative digits exponent = ofRatio negative numerator denominator := by
  have above : (denominator : ℚ) ≠ 0 := Nat.cast_ne_zero.mpr (Nat.pos_iff_ne_zero.mp positive')
  rw [ofDecimal_of_pos negative positive, if_neg (not_lt.mpr upper), if_neg (not_lt.mpr lower)]
  by_cases nonnegative : 0 ≤ exponent
  · rw [if_pos nonnegative]
    refine ofRatio_congr negative Nat.one_pos positive' ?_
    rw [zpow_eq_pow nonnegative, eq_div_iff above] at value
    rw [Nat.mul_one, Nat.pow_eq]
    exact_mod_cast value
  · rw [if_neg nonnegative]
    refine ofRatio_congr negative (Nat.pow_pos (by decide)) positive' ?_
    have power : (10 : ℚ) ^ (-exponent).toNat ≠ 0 := by positivity
    rw [zpow_eq_inv (by omega), ← div_eq_mul_inv, div_eq_div_iff power above] at value
    rw [Nat.pow_eq]
    exact_mod_cast value

/-- Decimals of the same value with the same leading place read as the same double. -/
theorem ofDecimal_congr (negative : Bool) {digits digits' : Nat} {exponent exponent' : Int}
    (positive : 0 < digits) (positive' : 0 < digits')
    (magnitude : magnitudeOf digits exponent = magnitudeOf digits' exponent')
    (value : (digits : ℚ) * 10 ^ exponent = digits' * 10 ^ exponent') :
    ofDecimal negative digits exponent = ofDecimal negative digits' exponent' := by
  by_cases upper : decimalReach < magnitudeOf digits exponent
  · rw [ofDecimal_of_pos negative positive, ofDecimal_of_pos negative positive', ← magnitude,
      if_pos upper, if_pos upper]
  · by_cases lower : magnitudeOf digits exponent < -decimalReach
    · rw [ofDecimal_of_pos negative positive, ofDecimal_of_pos negative positive', ← magnitude,
        if_neg upper, if_neg upper, if_pos lower, if_pos lower]
    · obtain ⟨numerator, denominator, above, quotient⟩ :=
        exists_quotient digits 10 (by decide) exponent
      rw [ofDecimal_eq_ofRatio negative positive above (not_lt.mp upper) (not_lt.mp lower) quotient,
        ofDecimal_eq_ofRatio negative positive' above (magnitude ▸ not_lt.mp upper)
          (magnitude ▸ not_lt.mp lower) (value ▸ quotient)]

/-! ### Zeros at the end -/

theorem length_toDigits_mul_pow {digits : Nat} (positive : 0 < digits) (count : Nat) :
    (Nat.toDigits 10 (digits * 10 ^ count)).length = (Nat.toDigits 10 digits).length + count := by
  induction count with
  | zero => rw [Nat.pow_zero, Nat.mul_one, Nat.add_zero]
  | succ count inductionHypothesis =>
    have step : digits * 10 ^ (count + 1) = 10 * (digits * 10 ^ count) + 0 := by
      rw [Nat.pow_succ]
      ring
    rw [step, ← Nat.toDigits_append_toDigits (by decide)
      (Nat.mul_pos positive (Nat.pow_pos (by decide))) (by decide), List.length_append,
      inductionHypothesis, Nat.add_assoc]
    rfl

/-- Zeros at the end of the digits count as a shift of the exponent. -/
theorem ofDecimal_mul_pow (negative : Bool) {digits : Nat} (positive : 0 < digits) (count : Nat)
    (exponent : Int) :
    ofDecimal negative (digits * 10 ^ count) exponent =
      ofDecimal negative digits (exponent + count) := by
  refine ofDecimal_congr negative (Nat.mul_pos positive (Nat.pow_pos (by decide))) positive ?_ ?_
  · rw [magnitudeOf, magnitudeOf, length_toDigits_mul_pow positive]
    push_cast
    ring
  · push_cast
    rw [zpow_add₀ (by norm_num), zpow_natCast]
    ring

/-! ### The exact decimal -/

theorem exactDecimal_value (significand : Nat) (exponent : Int) :
    ((exactDecimal significand exponent).digits : ℚ) *
        10 ^ (exactDecimal significand exponent).exponent = significand * 2 ^ exponent := by
  unfold exactDecimal
  split
  · rename_i nonnegative
    rw [zpow_zero, mul_one, zpow_eq_pow nonnegative, Nat.pow_eq]
    push_cast
    rfl
  · rename_i negative
    have ten : (10 : ℚ) ^ (-exponent).toNat = 5 ^ (-exponent).toNat * 2 ^ (-exponent).toNat := by
      rw [← mul_pow]
      norm_num
    have below : exponent < 0 := by omega
    rw [zpow_eq_inv below, zpow_eq_inv below, Nat.pow_eq, ten]
    push_cast
    have five : (5 : ℚ) ^ (-exponent).toNat ≠ 0 := by positivity
    rw [mul_inv, mul_assoc, ← mul_assoc _ _⁻¹, mul_inv_cancel₀ five, one_mul]

theorem exactDecimal_pos {significand : Nat} (positive : 0 < significand) (exponent : Int) :
    0 < (exactDecimal significand exponent).digits := by
  unfold exactDecimal
  split
  · exact Nat.mul_pos positive (Nat.pow_pos (by decide))
  · exact Nat.mul_pos positive (Nat.pow_pos (by decide))

/-- The exact expansion of a double has few enough digits before the point. -/
theorem exactDecimal_upper {significand : Nat} {exponent : Int} (small : significand < 2 ^ 53)
    (greatest : exponent ≤ greatestExponent) :
    magnitudeOf (exactDecimal significand exponent).digits
      (exactDecimal significand exponent).exponent ≤ decimalReach := by
  unfold exactDecimal magnitudeOf decimalReach
  unfold greatestExponent at greatest
  split
  · have bound : significand * Nat.pow 2 exponent.toNat < 10 ^ 400 := by
      have bounded : exponent.toNat ≤ 971 := by omega
      have power := Nat.pow_le_pow_right Nat.two_pos bounded
      calc significand * Nat.pow 2 exponent.toNat ≤ 2 ^ 53 * 2 ^ 971 :=
            Nat.mul_le_mul (Nat.le_of_lt small) power
        _ < 10 ^ 400 := by decide +kernel
    have := length_toDigits_le (by decide) bound
    dsimp only
    omega
  · have bound : significand * Nat.pow 5 (-exponent).toNat < 10 ^ (400 + (-exponent).toNat) := by
      have power : 5 ^ (-exponent).toNat ≤ 10 ^ (-exponent).toNat :=
        Nat.pow_le_pow_left (by decide) _
      calc significand * Nat.pow 5 (-exponent).toNat
          < 10 ^ 400 * 10 ^ (-exponent).toNat :=
            Nat.mul_lt_mul_of_lt_of_le
              (lt_trans small (by decide +kernel)) power (Nat.pow_pos (by decide))
        _ = 10 ^ (400 + (-exponent).toNat) := by rw [Nat.pow_add]
    have := length_toDigits_le (by omega) bound
    dsimp only
    omega

/-- The exact expansion of a double does not begin too far behind the point. -/
theorem exactDecimal_lower {significand : Nat} {exponent : Int} (positive : 0 < significand)
    (least : leastExponent ≤ exponent) :
    -decimalReach ≤ magnitudeOf (exactDecimal significand exponent).digits
      (exactDecimal significand exponent).exponent := by
  unfold exactDecimal magnitudeOf decimalReach
  unfold leastExponent at least
  split
  · dsimp only
    omega
  · by_contra short
    dsimp only at short
    have count : 0 < (-exponent).toNat - 400 := by omega
    have bound := (Nat.length_toDigits_le_iff (by decide) count).mp
      (show (Nat.toDigits 10 (significand * Nat.pow 5 (-exponent).toNat)).length ≤ _ by omega)
    refine absurd bound (not_lt.mpr ?_)
    have split : (-exponent).toNat = 400 + ((-exponent).toNat - 400) := by omega
    have bounded : (-exponent).toNat - 400 ≤ 674 := by omega
    have power := Nat.pow_le_pow_right Nat.two_pos bounded
    calc 10 ^ ((-exponent).toNat - 400)
        = 2 ^ ((-exponent).toNat - 400) * 5 ^ ((-exponent).toNat - 400) := by
          rw [← Nat.mul_pow]
      _ ≤ 5 ^ 400 * 5 ^ ((-exponent).toNat - 400) :=
          Nat.mul_le_mul_right _ (le_trans power (by decide +kernel))
      _ = 5 ^ (-exponent).toNat := by rw [← Nat.pow_add, ← split]
      _ ≤ significand * Nat.pow 5 (-exponent).toNat := Nat.le_mul_of_pos_left _ positive

theorem ofDecimal_exactDecimal {significand : Nat} {exponent : Int} (positive : 0 < significand)
    (normal : IsNormal (.finite false significand exponent)) :
    ofDecimal false (exactDecimal significand exponent).digits
      (exactDecimal significand exponent).exponent = .finite false significand exponent := by
  have value := exactDecimal_value significand exponent
  obtain ⟨numerator, denominator, above, quotient⟩ :=
    exists_quotient significand 2 (by decide) exponent
  rw [ofDecimal_eq_ofRatio false (exactDecimal_pos positive exponent) above
    (exactDecimal_upper normal.1 normal.2.2.1) (exactDecimal_lower positive normal.2.1)
    (value.trans quotient)]
  exact ofRatio_of_eq normal positive above quotient.symm

/-! ### The shortest decimal -/

/-- The shortest decimal of a double reads back as that double. -/
theorem ofDecimal_shortest {significand : Nat} {exponent : Int} (positive : 0 < significand)
    (normal : IsNormal (.finite false significand exponent)) :
    ofDecimal false (shortest significand exponent).digits
      (shortest significand exponent).exponent = .finite false significand exponent := by
  unfold shortest
  dsimp only
  cases found : List.find? _ _ with
  | none => exact ofDecimal_exactDecimal positive normal
  | some candidate =>
    have accepted := List.find?_some found
    exact of_decide_eq_true accepted

theorem shortest_pos {significand : Nat} {exponent : Int} (positive : 0 < significand)
    (normal : IsNormal (.finite false significand exponent)) :
    0 < (shortest significand exponent).digits := by
  refine Nat.pos_of_ne_zero fun empty => ?_
  have same := ofDecimal_shortest positive normal
  rw [empty, ofDecimal, if_pos rfl, zero] at same
  injection same with _ noDigits
  exact Nat.pos_iff_ne_zero.mp positive noDigits.symm

end WorkQuery.Number.Binary64
