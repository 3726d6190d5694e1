/-
This file proves that pages are counted exactly although the quotient of the total and the page size
is rounded to a double first (`pages_eq`). Rounding up afterwards goes wrong only if rounding to a
double reaches past an integer. It cannot pass one that is a double itself, as all integers near the
quotient are; and it cannot fall back onto the integer below, since a quotient lies at least one
over its denominator above that, which is more than half a unit in the last place of a quotient with
a numerator of no more than fifty-three bits (`half_unit_lt`).
-/

import Mathlib.Data.Rat.Floor
import WorkQuery.Proofs.WholeNumber
import WorkQuery.Table.Page

namespace WorkQuery

namespace Number.Binary64

/-! ### Rounding near an integer -/

theorem roundedQuotient_le_of_le {numerator denominator bound : Nat} (positive : 0 < denominator)
    (within : numerator ≤ bound * denominator) : roundedQuotient numerator denominator ≤ bound := by
  rcases Nat.lt_or_eq_of_le within with below | rfl
  · exact roundedQuotient_le positive below
  · exact le_of_eq (roundedQuotient_mul_self bound positive)

/-- A quotient that lies more than one half above an integer is rounded to a greater one. -/
theorem lt_roundedQuotient {numerator denominator bound : Nat} (positive : 0 < denominator)
    (above : (2 * bound + 1) * denominator < 2 * numerator) :
    bound < roundedQuotient numerator denominator := by
  have division := Nat.div_add_mod numerator denominator
  have remainder := Nat.mod_lt numerator positive
  have atLeast : bound ≤ numerator / denominator := by
    rw [Nat.le_div_iff_mul_le positive]
    linarith
  rcases Nat.lt_or_eq_of_le atLeast with beyond | same
  · simp only [roundedQuotient]
    split <;> omega
  · -- The quotient is the bound, so that the remainder makes up for more than one half.
    have half : denominator < 2 * (numerator % denominator) := by
      rw [← same] at division
      linarith
    simp only [roundedQuotient]
    rw [if_pos (.inl half), ← same]
    exact Nat.lt_succ_self bound

/-- Beyond an integer, a quotient with a numerator of fifty-three bits lies further from it than
half a unit at its exponent; `scale` is how many units make up one. -/
theorem half_unit_lt {numerator denominator whole scale : Nat} (few : numerator ≤ 2 ^ 53)
    (positive : 0 < scale) (above : whole * denominator < numerator)
    (fine : denominator < 2 * scale ∨ 2 ^ 52 * denominator ≤ numerator * scale) :
    (2 * (whole * scale) + 1) * denominator < 2 * (numerator * scale) := by
  obtain ⟨rest, rfl⟩ := Nat.exists_eq_add_of_lt above
  suffices close : denominator < 2 * scale * (rest + 1) by linarith
  rcases fine with fine | fine
  · exact fine.trans_le (Nat.le_mul_of_pos_right _ rest.succ_pos)
  · by_contra far
    -- Then the numerator is an even number, and one more than another even number.
    have large : 2 ^ 53 * (rest + 1) ≤ whole * denominator + rest + 1 := by
      refine Nat.le_of_mul_le_mul_right ?_ positive
      linarith
    obtain rfl : rest = 0 := by omega
    have unit : denominator = 2 * scale := by
      have most : whole * denominator + 0 + 1 ≤ 2 ^ 53 := few
      have scaled : (whole * denominator + 0 + 1) * scale ≤ 2 ^ 53 * scale :=
        Nat.mul_le_mul_right scale most
      omega
    have even : whole * denominator = 2 * (whole * scale) := by
      rw [unit]
      ring
    omega

/-! ### Rounding up -/

theorem ceil_div_eq {numerator denominator whole : Nat} (positive : 0 < denominator)
    (above : whole * denominator < numerator) (within : numerator ≤ (whole + 1) * denominator) :
    ⌈(numerator : ℚ) / denominator⌉ = whole + 1 := by
  have below : (0 : ℚ) < denominator := Nat.cast_pos.mpr positive
  rw [Int.ceil_eq_iff, lt_div_iff₀ below, div_le_iff₀ below]
  push_cast
  rw [add_sub_cancel_right]
  exact ⟨by exact_mod_cast above, by exact_mod_cast within⟩

theorem exists_whole {numerator denominator : Nat} (above : 0 < numerator)
    (positive : 0 < denominator) :
    ∃ whole, whole * denominator < numerator ∧ numerator ≤ (whole + 1) * denominator := by
  refine ⟨(numerator - 1) / denominator, ?_, ?_⟩
  · have := Nat.div_mul_le_self (numerator - 1) denominator
    omega
  · have := Nat.lt_div_mul_add positive (a := numerator - 1)
    rw [Nat.succ_mul]
    omega

/-- Rounding a quotient to units makes no difference to rounding it up. -/
theorem ceil_roundedQuotient {numerator denominator scale : Nat} (above : 0 < numerator)
    (positive : 0 < denominator) (positive' : 0 < scale) (few : numerator ≤ 2 ^ 53)
    (fine : denominator < 2 * scale ∨ 2 ^ 52 * denominator ≤ numerator * scale) :
    ⌈(roundedQuotient (numerator * scale) denominator : ℚ) / scale⌉ =
      ⌈(numerator : ℚ) / denominator⌉ := by
  obtain ⟨whole, lower, upper⟩ := exists_whole above positive
  rw [ceil_div_eq positive lower upper, ceil_div_eq positive' ?_ ?_]
  · exact lt_roundedQuotient positive (half_unit_lt few positive' lower fine)
  · refine roundedQuotient_le_of_le positive ?_
    calc numerator * scale ≤ (whole + 1) * denominator * scale := Nat.mul_le_mul_right scale upper
      _ = (whole + 1) * scale * denominator := by ring

theorem ceiling?_finite (significand : Nat) (exponent : Int) :
    ceiling? (.finite false significand exponent) = some ⌈(significand : ℚ) * 2 ^ exponent⌉ := by
  obtain ⟨numerator, denominator, positive, value, ratio⟩ :=
    ratio?_finite false significand exponent
  rw [ceiling?, ratio, Option.map_some, ← value, Rat.ceil_natCast_div_natCast]
  dsimp only
  rw [Int.fdiv_eq_ediv_of_nonneg _ (Int.natCast_nonneg denominator)]
  rfl

/-- A bit that is carried does not change the value. -/
theorem ceiling?_carried (significand : Nat) {exponent : Int}
    (small : exponent < greatestExponent) :
    ceiling? (carried false significand exponent) = some ⌈(significand : ℚ) * 2 ^ exponent⌉ := by
  unfold carried
  split
  · rename_i full
    rw [if_neg (not_lt.mpr small), ceiling?_finite, full, zpow_add₀ (by norm_num), zpow_one]
    congr 2
    push_cast [Nat.pow_eq]
    ring
  · rw [if_neg (not_lt.mpr small.le), ceiling?_finite]

theorem scaled_of_nonpos (numerator denominator : Nat) {exponent : Int} (small : exponent ≤ 0) :
    scaled numerator denominator exponent = (numerator * 2 ^ (-exponent).toNat, denominator) := by
  unfold scaled
  split
  · obtain rfl : exponent = 0 := by omega
    simp
  · rfl

/-- Rounding a quotient to a double first makes no difference to rounding it up, if its numerator is
small and its denominator is not so large that one part of it is rounded to zero. -/
theorem ceiling?_ofRatio {numerator denominator : Nat} (positive : 0 < denominator)
    (few : numerator ≤ 2 ^ 53) (fits : denominator < 2 ^ 1075) :
    ceiling? (ofRatio false numerator denominator) = some ⌈(numerator : ℚ) / denominator⌉ := by
  rcases Nat.eq_zero_or_pos numerator with rfl | above
  · rw [ofRatio, if_pos rfl, zero, ceiling?_finite]
    simp
  by_cases small : numerator < 2 ^ 53 * denominator
  · have isExponent := isExponent_exponentOf above positive
    rw [ofRatio_eq_carried false denominator above, significandAt]
    generalize exponentOf numerator denominator = exponent at isExponent
    have nonpos : exponent ≤ 0 := by
      refine isExponent.nonpos ?_
      rw [div_lt_iff₀ (Nat.cast_pos.mpr positive)]
      exact_mod_cast small
    have full := scaled_lt_iff numerator positive exponent (2 ^ 52)
    rw [scaled_of_nonpos _ _ nonpos] at full ⊢
    dsimp only at full ⊢
    have unit : (2 : ℚ) ^ exponent = ((2 ^ (-exponent).toNat : Nat) : ℚ)⁻¹ := by
      rw [← neg_neg exponent, zpow_neg, zpow_eq_pow (by omega), neg_neg]
      push_cast
      rfl
    have fine : denominator < 2 * 2 ^ (-exponent).toNat ∨
        2 ^ 52 * denominator ≤ numerator * 2 ^ (-exponent).toNat := by
      refine isExponent.above.imp (fun least => ?_) fun normal => ?_
      · rw [least]
        exact fits.trans_le (by decide +kernel)
      · refine not_lt.mp fun below => not_lt.mpr normal ?_
        exact_mod_cast full.mp below
    rw [ceiling?_carried _ (lt_of_le_of_lt nonpos (by decide)), unit, ← div_eq_mul_inv,
      ceil_roundedQuotient above positive (Nat.pow_pos (by decide)) few fine]
  · -- Only the greatest numerator has a quotient of more bits, which is a power of two.
    obtain rfl : denominator = 1 := by omega
    obtain rfl : numerator = 2 ^ 53 := by omega
    obtain ⟨significand, exponent, same, value⟩ := ofRatio_whole false above le_rfl
    rw [same, ceiling?_finite, ← value, Nat.cast_one, div_one]

end Number.Binary64

/-! ### Pages -/

/-- The number of pages is the quotient of the total and the page size, rounded up, for all page
sizes up to `greatestBound` and far beyond. -/
theorem PageRequest.pages_eq {request : PageRequest} {total : Nat} (positive : 0 < request.limit)
    (fits : request.limit < 2 ^ 1075) (few : total ≤ 2 ^ 53) :
    request.pages total = .ok ⌈(total : ℚ) / request.limit⌉ := by
  obtain ⟨limit, same⟩ := Int.eq_ofNat_of_zero_le positive.le
  have short : limit < 2 ^ 1075 := by
    rw [same] at fits
    exact_mod_cast fits
  have counted : (Number.Binary64.ofRatio false total limit).ceiling? =
      some ⌈(total : ℚ) / limit⌉ :=
    Number.Binary64.ceiling?_ofRatio (Int.natCast_pos.mp (same ▸ positive)) few short
  have natural : decide ((total : Int) < 0) = false := by simp
  unfold pages
  rw [natural, Int.natAbs_natCast, same, Int.natAbs_natCast, counted]
  rfl

end WorkQuery
