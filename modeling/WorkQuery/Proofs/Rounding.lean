/-
This file proves what rounding to double precision depends on and what it leaves alone. The nearest
double depends on the quotient only and not on how it is written (`ofRatio_congr`), it is always in
the one normal form of its value (`isNormal_ofRatio`), and a quotient that is a double in normal
form rounds to that very double (`ofRatio_of_eq`).
-/

import Mathlib.Algebra.Order.Field.Power
import Mathlib.Data.Rat.Cast.Order
import Mathlib.Tactic.FieldSimp
import Mathlib.Tactic.GCongr
import Mathlib.Tactic.Linarith
import Mathlib.Tactic.NormNum
import Mathlib.Tactic.Positivity
import Mathlib.Tactic.Ring
import WorkQuery.Number.Binary64

namespace WorkQuery.Number.Binary64

/-! ### The rounded quotient -/

theorem roundedQuotient_mul_right (numerator denominator : Nat) {factor : Nat}
    (positive : 0 < factor) :
    roundedQuotient (numerator * factor) (denominator * factor) =
      roundedQuotient numerator denominator := by
  have half : 2 * (numerator % denominator * factor) = 2 * (numerator % denominator) * factor := by
    rw [Nat.mul_assoc]
  simp only [roundedQuotient, Nat.mul_div_mul_right _ _ positive, Nat.mul_mod_mul_right, half,
    Nat.mul_lt_mul_right positive, Nat.mul_right_cancel_iff positive]

/-- Equal quotients round to the same integer. -/
theorem roundedQuotient_congr {numerator denominator numerator' denominator' : Nat}
    (positive : 0 < denominator) (positive' : 0 < denominator')
    (same : numerator * denominator' = numerator' * denominator) :
    roundedQuotient numerator denominator = roundedQuotient numerator' denominator' := by
  rw [← roundedQuotient_mul_right numerator denominator positive', same,
    Nat.mul_comm denominator denominator', roundedQuotient_mul_right _ _ positive]

/-- An integer rounds to itself. -/
theorem roundedQuotient_mul_self (value : Nat) {denominator : Nat} (positive : 0 < denominator) :
    roundedQuotient (value * denominator) denominator = value := by
  simp only [roundedQuotient, Nat.mul_mod_left, Nat.mul_div_cancel _ positive]
  rw [if_neg]
  omega

theorem roundedQuotient_le {numerator denominator bound : Nat} (positive : 0 < denominator)
    (below : numerator < bound * denominator) :
    roundedQuotient numerator denominator ≤ bound := by
  have quotient : numerator / denominator < bound := (Nat.div_lt_iff_lt_mul positive).mpr below
  simp only [roundedQuotient]
  split <;> omega

theorem le_roundedQuotient {numerator denominator bound : Nat} (positive : 0 < denominator)
    (above : bound * denominator ≤ numerator) :
    bound ≤ roundedQuotient numerator denominator := by
  have quotient : bound ≤ numerator / denominator := (Nat.le_div_iff_mul_le positive).mpr above
  simp only [roundedQuotient]
  split <;> omega

/-! ### Scaling -/

theorem scaled_pos (numerator : Nat) {denominator : Nat} (positive : 0 < denominator)
    (exponent : Int) : 0 < (scaled numerator denominator exponent).2 := by
  unfold scaled
  split
  · exact Nat.mul_pos positive (Nat.pow_pos (by decide))
  · exact positive

/-- A power of two with an integer exponent, by the sign of the exponent. -/
theorem two_zpow_eq (exponent : Int) :
    (2 : ℚ) ^ exponent =
      if 0 ≤ exponent then (2 : ℚ) ^ exponent.toNat else ((2 : ℚ) ^ (-exponent).toNat)⁻¹ := by
  split
  · rename_i nonnegative
    rw [← zpow_natCast, Int.toNat_of_nonneg nonnegative]
  · rename_i negative
    rw [← zpow_natCast, ← zpow_neg, Int.toNat_of_nonneg (by omega), neg_neg]

theorem scaled_ratio (numerator denominator : Nat) (exponent : Int) :
    ((scaled numerator denominator exponent).1 : ℚ) / (scaled numerator denominator exponent).2 =
      (numerator : ℚ) / denominator / 2 ^ exponent := by
  rw [two_zpow_eq]
  unfold scaled
  split
  · push_cast [Nat.pow_eq]
    rw [div_div]
  · push_cast [Nat.pow_eq]
    rw [div_inv_eq_mul, div_mul_eq_mul_div]

/-- A bound on a scaled quotient, as a bound on its numerator. -/
theorem scaled_lt_iff (numerator : Nat) {denominator : Nat} (positive : 0 < denominator)
    (exponent : Int) (bound : Nat) :
    (scaled numerator denominator exponent).1 < bound * (scaled numerator denominator exponent).2 ↔
      (numerator : ℚ) / denominator / 2 ^ exponent < bound := by
  have below : (0 : ℚ) < (scaled numerator denominator exponent).2 :=
    Nat.cast_pos.mpr (scaled_pos numerator positive exponent)
  rw [← scaled_ratio, div_lt_iff₀ below]
  exact_mod_cast Iff.rfl

/-! ### The exponent -/

/-- An exponent at which a quotient has a significand of fifty-three bits, or the least one for a
quotient that has fewer. -/
structure IsExponent (quotient : ℚ) (exponent : Int) : Prop where
  least : leastExponent ≤ exponent
  below : quotient / 2 ^ exponent < 2 ^ 53
  above : exponent = leastExponent ∨ 2 ^ 52 ≤ quotient / 2 ^ exponent

theorem IsExponent.le {quotient : ℚ} {exponent exponent' : Int}
    (first : IsExponent quotient exponent) (second : IsExponent quotient exponent') :
    exponent' ≤ exponent := by
  by_contra larger
  have larger : exponent + 1 ≤ exponent' := by omega
  rcases second.above with least | full
  · have := first.least
    omega
  · have step : (2 : ℚ) ^ (exponent + 1) ≤ 2 ^ exponent' :=
      zpow_le_zpow_right₀ (by norm_num) larger
    rw [zpow_add₀ (by norm_num), zpow_one] at step
    have positive : (0 : ℚ) < 2 ^ exponent := by positivity
    have positive' : (0 : ℚ) < 2 ^ exponent' := by positivity
    have upper := (div_lt_iff₀ positive).mp first.below
    have lower := (le_div_iff₀ positive').mp full
    linarith

theorem IsExponent.unique {quotient : ℚ} {exponent exponent' : Int}
    (first : IsExponent quotient exponent) (second : IsExponent quotient exponent') :
    exponent = exponent' :=
  le_antisymm (second.le first) (first.le second)

theorem IsExponent.nonpos {quotient : ℚ} {exponent : Int}
    (isExponent : IsExponent quotient exponent) (small : quotient < 2 ^ 53) : exponent ≤ 0 := by
  rcases isExponent.above with least | full
  · rw [least]
    decide
  · by_contra large
    have power : (2 : ℚ) ^ (1 : Int) ≤ 2 ^ exponent :=
      zpow_le_zpow_right₀ (by norm_num) (by omega)
    rw [le_div_iff₀ (by positivity)] at full
    rw [zpow_one] at power
    linarith

/-- The first guess at the exponent is at most one too large, and never too small. -/
theorem scaled_guess {numerator denominator : Nat} (positive : 0 < numerator)
    (positive' : 0 < denominator) :
    (numerator : ℚ) / denominator / 2 ^ ((numerator.log2 : Int) - denominator.log2 - 52) < 2 ^ 53 ∧
      2 ^ 51 < (numerator : ℚ) / denominator /
        2 ^ ((numerator.log2 : Int) - denominator.log2 - 52) := by
  have numeratorLower : (2 : ℚ) ^ numerator.log2 ≤ numerator := by
    exact_mod_cast Nat.log2_self_le (Nat.pos_iff_ne_zero.mp positive)
  have numeratorUpper : (numerator : ℚ) < 2 ^ numerator.log2 * 2 := by
    rw [← pow_succ]
    exact_mod_cast Nat.lt_log2_self
  have denominatorLower : (2 : ℚ) ^ denominator.log2 ≤ denominator := by
    exact_mod_cast Nat.log2_self_le (Nat.pos_iff_ne_zero.mp positive')
  have denominatorUpper : (denominator : ℚ) < 2 ^ denominator.log2 * 2 := by
    rw [← pow_succ]
    exact_mod_cast Nat.lt_log2_self
  have scale : (numerator : ℚ) / denominator /
      2 ^ ((numerator.log2 : Int) - denominator.log2 - 52) =
        numerator * (2 ^ denominator.log2 * 2 ^ 52) / (denominator * 2 ^ numerator.log2) := by
    rw [zpow_sub₀ (by norm_num), zpow_sub₀ (by norm_num), zpow_natCast, zpow_natCast]
    field_simp
  have below : (0 : ℚ) < denominator := Nat.cast_pos.mpr positive'
  have power : (0 : ℚ) < 2 ^ numerator.log2 := by positivity
  have power' : (0 : ℚ) < 2 ^ denominator.log2 := by positivity
  rw [scale, div_lt_iff₀ (by positivity), lt_div_iff₀ (by positivity)]
  constructor
  · calc (numerator : ℚ) * (2 ^ denominator.log2 * 2 ^ 52)
        < 2 ^ numerator.log2 * 2 * (2 ^ denominator.log2 * 2 ^ 52) := by gcongr
      _ = 2 ^ 53 * (2 ^ denominator.log2 * 2 ^ numerator.log2) := by ring
      _ ≤ 2 ^ 53 * (denominator * 2 ^ numerator.log2) := by gcongr
  · calc (2 : ℚ) ^ 51 * (denominator * 2 ^ numerator.log2)
        < 2 ^ 51 * (2 ^ denominator.log2 * 2 * 2 ^ numerator.log2) := by gcongr
      _ = 2 ^ numerator.log2 * (2 ^ denominator.log2 * 2 ^ 52) := by ring
      _ ≤ numerator * (2 ^ denominator.log2 * 2 ^ 52) := by gcongr

/-- An exponent at which the significand has its bits, raised to the least one if need be. -/
theorem isExponent_max {quotient : ℚ} {exponent : Int} (nonnegative : 0 ≤ quotient)
    (below : quotient / 2 ^ exponent < 2 ^ 53) (above : 2 ^ 52 ≤ quotient / 2 ^ exponent) :
    IsExponent quotient (max exponent leastExponent) := by
  rcases le_total leastExponent exponent with large | small
  · rw [max_eq_left large]
    exact ⟨large, below, .inr above⟩
  · rw [max_eq_right small]
    refine ⟨le_rfl, lt_of_le_of_lt ?_ below, .inl rfl⟩
    exact div_le_div_of_nonneg_left nonnegative (by positivity)
      (zpow_le_zpow_right₀ (by norm_num) small)

theorem isExponent_exponentOf {numerator denominator : Nat} (positive : 0 < numerator)
    (positive' : 0 < denominator) :
    IsExponent ((numerator : ℚ) / denominator) (exponentOf numerator denominator) := by
  obtain ⟨below, above⟩ := scaled_guess positive positive'
  have small := scaled_lt_iff numerator positive'
    ((numerator.log2 : Int) - denominator.log2 - 52) (2 ^ 52)
  rw [Nat.mul_comm] at small
  push_cast at small
  unfold exponentOf
  refine isExponent_max (by positivity) ?_ ?_
  · split
    · rename_i isSmall
      rw [zpow_sub_one₀ (by norm_num), ← div_div, div_inv_eq_mul]
      linarith [small.mp isSmall]
    · exact below
  · split
    · rw [zpow_sub_one₀ (by norm_num), ← div_div, div_inv_eq_mul]
      linarith
    · rename_i isLarge
      exact not_lt.mp fun isSmall => isLarge (small.mpr isSmall)

/-- The exponent depends on the quotient only. -/
theorem exponentOf_congr {numerator denominator numerator' denominator' : Nat}
    (positive : 0 < numerator) (above : 0 < numerator')
    (positive' : 0 < denominator) (above' : 0 < denominator')
    (same : numerator * denominator' = numerator' * denominator) :
    exponentOf numerator denominator = exponentOf numerator' denominator' := by
  have first := isExponent_exponentOf positive positive'
  have second := isExponent_exponentOf above above'
  have quotient : (numerator : ℚ) / denominator = numerator' / denominator' := by
    rw [div_eq_div_iff (by positivity) (by positivity)]
    exact_mod_cast same
  rw [quotient] at first
  exact first.unique second

/-! ### Rounding to a double -/

/-- The one normal form of a double: fifty-three bits, or fewer at the least exponent. -/
def IsNormal : Binary64 → Prop
  | .finite _ significand exponent =>
    significand < 2 ^ 53 ∧ leastExponent ≤ exponent ∧ exponent ≤ greatestExponent ∧
      (2 ^ 52 ≤ significand ∨ exponent = leastExponent)
  | _ => True

theorem ofRatio_eq_carried (negative : Bool) {numerator : Nat} (denominator : Nat)
    (positive : 0 < numerator) :
    ofRatio negative numerator denominator =
      carried negative (significandAt numerator denominator (exponentOf numerator denominator))
        (exponentOf numerator denominator) := by
  rw [ofRatio, if_neg (Nat.pos_iff_ne_zero.mp positive)]

/-- Equal quotients round to the same double. -/
theorem ofRatio_congr (negative : Bool) {numerator denominator numerator' denominator' : Nat}
    (positive : 0 < denominator) (positive' : 0 < denominator')
    (same : numerator * denominator' = numerator' * denominator) :
    ofRatio negative numerator denominator = ofRatio negative numerator' denominator' := by
  rcases Nat.eq_zero_or_pos numerator with rfl | above
  · have zero : numerator' = 0 := by
      have product : numerator' * denominator = 0 := by rw [← same, Nat.zero_mul]
      exact (Nat.mul_eq_zero.mp product).resolve_right (Nat.pos_iff_ne_zero.mp positive)
    rw [zero, ofRatio, ofRatio, if_pos rfl, if_pos rfl]
  · have above' : 0 < numerator' := by
      refine Nat.pos_of_ne_zero fun zero => ?_
      rw [zero, Nat.zero_mul] at same
      exact Nat.pos_iff_ne_zero.mp (Nat.mul_pos above positive') same
    rw [ofRatio_eq_carried negative denominator above,
      ofRatio_eq_carried negative denominator' above',
      exponentOf_congr above above' positive positive' same]
    refine congrArg (carried negative · _) (roundedQuotient_congr (scaled_pos _ positive _)
      (scaled_pos _ positive' _) ?_)
    have ratio := scaled_ratio numerator denominator (exponentOf numerator' denominator')
    have quotient : (numerator : ℚ) / denominator = numerator' / denominator' := by
      rw [div_eq_div_iff (by positivity) (by positivity)]
      exact_mod_cast same
    rw [quotient, ← scaled_ratio, div_eq_div_iff
      (Nat.cast_ne_zero.mpr (Nat.pos_iff_ne_zero.mp (scaled_pos _ positive _)))
      (Nat.cast_ne_zero.mpr (Nat.pos_iff_ne_zero.mp (scaled_pos _ positive' _)))] at ratio
    exact_mod_cast ratio

theorem isNormal_zero (negative : Bool) : IsNormal (zero negative) :=
  ⟨by norm_num, le_rfl, by decide, .inr rfl⟩

theorem isNormal_carried (negative : Bool) {significand : Nat} {exponent : Int}
    (bounded : significand ≤ 2 ^ 53) (least : leastExponent ≤ exponent)
    (full : 2 ^ 52 ≤ significand ∨ exponent = leastExponent) :
    IsNormal (carried negative significand exponent) := by
  unfold carried
  split
  · split
    · trivial
    · exact ⟨by decide, by omega, by omega, .inl le_rfl⟩
  · rename_i notCarried
    split
    · trivial
    · exact ⟨lt_of_le_of_ne bounded notCarried, least, by omega, full⟩

/-- Rounding gives a double in normal form. -/
theorem isNormal_ofRatio (negative : Bool) (numerator : Nat) {denominator : Nat}
    (positive : 0 < denominator) : IsNormal (ofRatio negative numerator denominator) := by
  rcases Nat.eq_zero_or_pos numerator with rfl | above
  · rw [ofRatio, if_pos rfl]
    exact isNormal_zero negative
  · rw [ofRatio_eq_carried negative denominator above]
    have exponent := isExponent_exponentOf above positive
    have below := scaled_pos numerator positive (exponentOf numerator denominator)
    refine isNormal_carried negative (roundedQuotient_le below ?_) exponent.least ?_
    · rw [scaled_lt_iff numerator positive]
      exact_mod_cast exponent.below
    · rcases exponent.above with least | full
      · exact .inr least
      · refine .inl (le_roundedQuotient below (not_lt.mp ?_))
        rw [scaled_lt_iff numerator positive]
        exact_mod_cast not_lt.mpr full

/-- A quotient that is a double in normal form rounds to it. -/
theorem ofRatio_of_eq {negative : Bool} {numerator denominator significand : Nat} {exponent : Int}
    (normal : IsNormal (.finite negative significand exponent)) (nonzero : 0 < significand)
    (positive : 0 < denominator)
    (value : (numerator : ℚ) / denominator = significand * 2 ^ exponent) :
    ofRatio negative numerator denominator = .finite negative significand exponent := by
  obtain ⟨small, least, greatest, full⟩ := normal
  have power : (0 : ℚ) < 2 ^ exponent := by positivity
  have quotient : (numerator : ℚ) / denominator / 2 ^ exponent = significand := by
    rw [value, mul_div_assoc, div_self power.ne', mul_one]
  have above : 0 < numerator := by
    refine Nat.pos_of_ne_zero fun zero => ?_
    rw [zero, Nat.cast_zero, zero_div] at value
    exact (mul_pos (Nat.cast_pos.mpr nonzero) power).ne value
  have isExponent : IsExponent ((numerator : ℚ) / denominator) exponent := by
    refine ⟨least, ?_, ?_⟩
    · rw [quotient]
      exact_mod_cast small
    · rw [quotient]
      exact full.symm.imp_right fun full => by exact_mod_cast full
  rw [ofRatio_eq_carried negative denominator above,
    (isExponent_exponentOf above positive).unique isExponent]
  have below := scaled_pos numerator positive exponent
  have ratio := scaled_ratio numerator denominator exponent
  rw [quotient, div_eq_iff (Nat.cast_ne_zero.mpr (Nat.pos_iff_ne_zero.mp below))] at ratio
  have product : (scaled numerator denominator exponent).1 =
      significand * (scaled numerator denominator exponent).2 := by exact_mod_cast ratio
  have notCarried : significand ≠ Nat.pow 2 53 := Nat.ne_of_lt small
  rw [significandAt, product, roundedQuotient_mul_self significand below, carried,
    if_neg notCarried, if_neg (not_lt.mpr greatest)]

/-- The sign has no part in rounding. -/
theorem ofRatio_eq_finite_iff {negative : Bool} (other : Bool) {numerator denominator : Nat}
    {significand : Nat} {exponent : Int} :
    ofRatio negative numerator denominator = .finite negative significand exponent ↔
      ofRatio other numerator denominator = .finite other significand exponent := by
  rcases Nat.eq_zero_or_pos numerator with rfl | above
  · simp [ofRatio, zero]
  · rw [ofRatio_eq_carried negative denominator above, ofRatio_eq_carried other denominator above]
    simp only [carried]
    split <;> split <;> simp

end WorkQuery.Number.Binary64
