/-
This file proves what is needed of doubles that are integers. Such a double may be written as that
integer and reads back as an equal number (`readNumber?_integerText`); only the sign of zero is
lost. An integer that is rounded to a double stays an integer, and it is zero or one only if it was
(`toInt?_ofInt?`); one of at most fifty-three bits is not rounded at all (`ofInt?_whole`). Every
number that is read is in normal form.
-/

import WorkQuery.Proofs.NumberText

namespace WorkQuery.Number.Binary64

open Text

/-! ### Normal forms -/

theorem isNormal_ofDecimal (negative : Bool) (digits : Nat) (exponent : Int) :
    IsNormal (ofDecimal negative digits exponent) := by
  rcases Nat.eq_zero_or_pos digits with rfl | positive
  · rw [ofDecimal, if_pos rfl]
    exact isNormal_zero negative
  · rw [ofDecimal_of_pos negative positive]
    split
    · trivial
    · split
      · exact isNormal_zero negative
      · split
        · exact isNormal_ofRatio negative _ Nat.one_pos
        · exact isNormal_ofRatio negative _ (Nat.pow_pos (by decide))

theorem isNormal_ofInt? {value : Int} {number : Binary64} (found : ofInt? value = some number) :
    IsNormal number := by
  have normal := isNormal_ofRatio (decide (value < 0)) value.natAbs Nat.one_pos
  unfold ofInt? at found
  split at found
  · contradiction
  · exact Option.some.inj found ▸ normal

theorem isNormal_plainNumber? {characters : List Char} {number : Binary64}
    (found : plainNumber? characters = some number) : IsNormal number := by
  unfold plainNumber? at found
  dsimp only at found
  split at found
  · exact Option.some.inj found ▸ isNormal_ofDecimal _ _ _
  · unfold namedNumber? at found
    split at found
    · exact Option.some.inj found ▸ trivial
    · exact Option.some.inj found ▸ trivial
    · exact Option.some.inj found ▸ trivial
    · contradiction

/-- Every number that is read is in normal form. -/
theorem isNormal_readNumber? {text : String} {number : Binary64}
    (found : readNumber? text = some number) : IsNormal number := by
  obtain ⟨characters, -, found⟩ := Option.bind_eq_some_iff.mp found
  exact isNormal_plainNumber? found

/-! ### Doubles that are integers -/

theorem signed_mul (negative : Bool) (factor magnitude : Nat) :
    signed negative (factor * magnitude) = factor * signed negative magnitude := by
  cases negative
  · exact Int.natCast_mul factor magnitude
  · simp only [signed, if_true]
    push_cast
    ring

theorem decide_signed_neg (negative : Bool) {magnitude : Nat} (positive : 0 < magnitude) :
    decide (signed negative magnitude < 0) = negative := by
  cases negative
  · simp [signed]
  · simp [signed, positive]

/-- A finite double as a signed numerator over its denominator. -/
theorem ratio?_finite (negative : Bool) (significand : Nat) (exponent : Int) :
    ∃ numerator denominator : Nat, 0 < denominator ∧
      (numerator : ℚ) / denominator = significand * 2 ^ exponent ∧
      ratio? (.finite negative significand exponent) =
        some (signed negative numerator, denominator) := by
  unfold ratio?
  dsimp only
  split
  · rename_i nonnegative
    refine ⟨significand * Nat.pow 2 exponent.toNat, 1, Nat.one_pos, ?_, ?_⟩
    · rw [zpow_eq_pow nonnegative, Nat.pow_eq]
      push_cast
      rw [div_one]
    · cases negative <;> simp [signed]
  · refine ⟨significand, Nat.pow 2 (-exponent).toNat, Nat.pow_pos (by decide), ?_, rfl⟩
    rw [zpow_eq_inv (by omega), Nat.pow_eq]
    push_cast
    rw [div_eq_mul_inv]

/-- The integer of a double has the value of the double and its sign. -/
theorem toInt?_finite {negative : Bool} {significand : Nat} {exponent whole : Int}
    (found : toInt? (.finite negative significand exponent) = some whole) :
    (whole.natAbs : ℚ) = significand * 2 ^ exponent ∧ whole = signed negative whole.natAbs := by
  obtain ⟨numerator, denominator, positive, value, ratio⟩ :=
    ratio?_finite negative significand exponent
  rw [toInt?, ratio] at found
  dsimp only at found
  split at found
  · rename_i divides
    obtain rfl := Option.some.inj found
    obtain ⟨quotient, same⟩ := Int.dvd_of_emod_eq_zero divides
    have above : (denominator : Int) ≠ 0 := by omega
    rw [same, Int.mul_ediv_cancel_left _ above]
    have magnitude : numerator = denominator * quotient.natAbs := by
      rw [← natAbs_signed negative numerator, same, Int.natAbs_mul, Int.natAbs_natCast]
    constructor
    · rw [← value, magnitude]
      push_cast
      field_simp
    · refine Int.eq_of_mul_eq_mul_left above ?_
      rw [← same, ← signed_mul, magnitude]
  · contradiction

/-- A double whose value is a natural number is that integer, with the sign of the double. -/
theorem toInt?_of_value (negative : Bool) {significand magnitude : Nat} {exponent : Int}
    (same : (magnitude : ℚ) = significand * 2 ^ exponent) :
    toInt? (.finite negative significand exponent) = some (signed negative magnitude) := by
  obtain ⟨numerator, denominator, positive, value, ratio⟩ :=
    ratio?_finite negative significand exponent
  have above : (denominator : ℚ) ≠ 0 := Nat.cast_ne_zero.mpr (Nat.pos_iff_ne_zero.mp positive)
  rw [← same, div_eq_iff above] at value
  have product : numerator = denominator * magnitude := by
    rw [Nat.mul_comm]
    exact_mod_cast value
  rw [toInt?, ratio]
  dsimp only
  rw [product, signed_mul, Int.mul_emod_right, if_pos rfl,
    Int.mul_ediv_cancel_left _ (by omega)]

/-- A number of digits that no integer among the doubles exceeds. -/
def wholeDigits : Nat := 400

/-- Integers among the doubles are short. -/
theorem magnitude_lt {significand magnitude : Nat} {exponent : Int}
    (small : significand < 2 ^ 53) (greatest : exponent ≤ greatestExponent)
    (same : (magnitude : ℚ) = significand * 2 ^ exponent) : magnitude < 10 ^ wholeDigits := by
  have power : (2 : ℚ) ^ exponent ≤ 2 ^ greatestExponent :=
    zpow_le_zpow_right₀ (by norm_num) greatest
  have bound : (magnitude : ℚ) ≤ ((2 ^ 53 * Nat.pow 2 greatestExponent.toNat : Nat) : ℚ) := by
    rw [same]
    push_cast [Nat.pow_eq]
    rw [← zpow_eq_pow (by decide)]
    gcongr
    exact_mod_cast Nat.le_of_lt small
  refine lt_of_le_of_lt (Nat.cast_le.mp bound) ?_
  decide +kernel

/-- A short integer is rounded in one step, whether it is given by its digits or as a quotient. -/
theorem ofDecimal_whole (negative : Bool) {magnitude : Nat} (short : magnitude < 10 ^ wholeDigits) :
    ofDecimal negative magnitude 0 = ofRatio negative magnitude 1 := by
  rcases Nat.eq_zero_or_pos magnitude with rfl | positive
  · rw [ofDecimal, if_pos rfl, ofRatio, if_pos rfl]
  · have few := length_toDigits_le (by decide) short
    refine ofDecimal_eq_ofRatio negative positive Nat.one_pos ?_ ?_ ?_
    · unfold magnitudeOf decimalReach wholeDigits at *
      omega
    · unfold magnitudeOf decimalReach
      omega
    · rw [zpow_zero, mul_one, Nat.cast_one, div_one]

/-- The integer of a double is short enough to be read. -/
theorem natAbs_lt_of_toInt? {number : Binary64} {whole : Int} (normal : IsNormal number)
    (found : number.toInt? = some whole) : whole.natAbs < 10 ^ digitLimit := by
  cases number with
  | notANumber => cases found
  | infinite negative => cases found
  | finite negative significand exponent =>
    have below := magnitude_lt normal.1 normal.2.2.1 (toInt?_finite found).1
    exact below.trans_le
      (Nat.pow_le_pow_right (by decide) (show wholeDigits ≤ digitLimit by decide))

/-- The integer of a double other than zero rounds to that double. -/
theorem ofDecimal_toInt? {negative : Bool} {significand : Nat} {exponent whole : Int}
    (normal : IsNormal (.finite negative significand exponent)) (nonzero : 0 < significand)
    (found : toInt? (.finite negative significand exponent) = some whole) :
    ofDecimal (decide (whole < 0)) whole.natAbs 0 = .finite negative significand exponent := by
  obtain ⟨value, sign⟩ := toInt?_finite found
  have positive : 0 < whole.natAbs := by
    have above : (0 : ℚ) < whole.natAbs := by
      rw [value]
      positivity
    exact_mod_cast above
  have sameSign : decide (whole < 0) = negative := by
    rw [sign]
    exact decide_signed_neg negative positive
  rw [sameSign, ofDecimal_whole negative (magnitude_lt normal.1 normal.2.2.1 value)]
  refine ofRatio_of_eq normal nonzero Nat.one_pos ?_
  rw [Nat.cast_one, div_one, value]

/-! ### Comparison -/

theorem compare?_self {number : Binary64} (proper : number ≠ .notANumber) :
    number.compare? number = some .eq := by
  cases number with
  | notANumber => contradiction
  | infinite negative => simp [compare?]
  | finite negative significand exponent =>
    obtain ⟨numerator, denominator, -, -, ratio⟩ := ratio?_finite negative significand exponent
    simp [compare?, ratio]

theorem ratio?_zero (negative : Bool) :
    ∃ denominator : Nat, 0 < denominator ∧ ratio? (zero negative) = some (0, denominator) := by
  obtain ⟨numerator, denominator, positive, value, ratio⟩ :=
    ratio?_finite negative 0 leastExponent
  have above : (denominator : ℚ) ≠ 0 := Nat.cast_ne_zero.mpr (Nat.pos_iff_ne_zero.mp positive)
  rw [Nat.cast_zero, zero_mul, div_eq_zero_iff, or_iff_left above, Nat.cast_eq_zero] at value
  refine ⟨denominator, positive, ratio.trans ?_⟩
  rw [value]
  cases negative <;> rfl

/-- Zeros are equal whatever their sign. -/
theorem compare?_zero (negative other : Bool) :
    (zero negative).compare? (zero other) = some .eq := by
  obtain ⟨denominator, -, ratio⟩ := ratio?_zero negative
  obtain ⟨denominator', -, ratio'⟩ := ratio?_zero other
  rw [zero] at ratio ratio'
  simp [compare?, zero, ratio, ratio']

/-- A double that is an integer equals zero only if that integer is zero. -/
theorem compare?_zero_iff {number : Binary64} {whole : Int} (found : number.toInt? = some whole)
    (negative : Bool) : number.compare? (zero negative) = some .eq ↔ whole = 0 := by
  cases number with
  | notANumber | infinite => cases found
  | finite sign significand exponent =>
    obtain ⟨numerator, denominator, -, -, ratio⟩ := ratio?_finite sign significand exponent
    obtain ⟨denominator', positive, ratio'⟩ := ratio?_zero negative
    have compared : (finite sign significand exponent).compare? (zero negative) = some .eq ↔
        signed sign numerator = 0 := by
      rw [zero] at ratio'
      simp [compare?, zero, ratio, ratio', positive.ne']
    rw [compared]
    rw [toInt?, ratio] at found
    dsimp only at found
    split at found
    · rename_i divides
      rw [← Option.some.inj found]
      constructor
      · intro same
        rw [same, Int.zero_ediv]
      · intro same
        rw [← Int.mul_ediv_add_emod (signed sign numerator) denominator, same, divides, mul_zero,
          add_zero]
    · cases found

/-! ### Written integers -/

theorem allPlain_integerText (value : Int) : AllPlain (integerText value) := by
  refine allPlain_of_forall fun character member => ?_
  rcases mem_integerText member with rfl | isDigit
  · exact .inr (by decide)
  · exact .inl isDigit

theorem readNumber?_integerText (value : Int) :
    readNumber? (integerText value) = some (ofDecimal (decide (value < 0)) value.natAbs 0) := by
  have areDigits : ∀ digit ∈ Nat.toDigits 10 value.natAbs, digit.isDigit :=
    fun _ => isDigit_of_mem_toDigits
  have found := numeral?_whole Nat.toDigits_ne_nil areDigits .none
  rw [List.append_nil, digitsValue_toDigits] at found
  rw [readNumber?_of_allPlain (allPlain_integerText value), plainNumber?, splitSign_integerText]
  dsimp only
  rw [found]

/-- A double that is an integer reads back from the text of that integer, up to the sign of zero. -/
theorem readNumber?_whole {number : Binary64} {whole : Int} (normal : IsNormal number)
    (found : number.toInt? = some whole) :
    ∃ again, readNumber? (integerText whole) = some again ∧ number.compare? again = some .eq := by
  refine ⟨_, readNumber?_integerText whole, ?_⟩
  cases number with
  | notANumber => contradiction
  | infinite => contradiction
  | finite negative significand exponent =>
    rcases Nat.eq_zero_or_pos significand with rfl | positive
    · obtain rfl : exponent = leastExponent := normal.2.2.2.resolve_left (by norm_num)
      have value := (toInt?_finite found).1
      rw [Nat.cast_zero, zero_mul, Nat.cast_eq_zero] at value
      rw [value, ofDecimal, if_pos rfl]
      exact compare?_zero negative _
    · rw [ofDecimal_toInt? normal positive found]
      exact compare?_self Binary64.noConfusion

/-! ### Rounded integers -/

/-- An integer whose significand has room to spare is not rounded. -/
theorem ofRatio_small (negative : Bool) {magnitude : Nat} (positive : 0 < magnitude)
    (small : exponentOf magnitude 1 ≤ 0) :
    ∃ significand exponent, ofRatio negative magnitude 1 = .finite negative significand exponent ∧
      (magnitude : ℚ) = significand * 2 ^ exponent := by
  have isExponent := isExponent_exponentOf positive Nat.one_pos
  generalize exponentOf magnitude 1 = exponent at small isExponent
  have quotient : (magnitude : ℚ) / (1 : Nat) / 2 ^ exponent =
      (magnitude * 2 ^ (-exponent).toNat : Nat) := by
    rw [Nat.cast_one, div_one, div_eq_mul_inv, ← zpow_neg, zpow_eq_pow (by omega)]
    push_cast
    rfl
  have value : (magnitude : ℚ) = (magnitude * 2 ^ (-exponent).toNat : Nat) * 2 ^ exponent := by
    rw [← quotient, Nat.cast_one, div_one, div_mul_cancel₀ _ (by positivity)]
  have normal : IsNormal (.finite negative (magnitude * 2 ^ (-exponent).toNat) exponent) := by
    refine ⟨?_, isExponent.least, le_trans small (by decide), ?_⟩
    · have below := isExponent.below
      rw [quotient] at below
      exact_mod_cast below
    · refine isExponent.above.symm.imp_left fun full => ?_
      rw [quotient] at full
      exact_mod_cast full
  refine ⟨_, _, ofRatio_of_eq normal (Nat.mul_pos positive (Nat.pow_pos (by decide)))
    Nat.one_pos ?_, value⟩
  rw [Nat.cast_one, div_one, ← value]

/-- The integers of up to fifty-three bits, and the next one, are not rounded. -/
theorem ofRatio_whole (negative : Bool) {magnitude : Nat} (positive : 0 < magnitude)
    (few : magnitude ≤ 2 ^ 53) :
    ∃ significand exponent, ofRatio negative magnitude 1 = .finite negative significand exponent ∧
      (magnitude : ℚ) = significand * 2 ^ exponent := by
  rcases Nat.lt_or_eq_of_le few with small | rfl
  · refine ofRatio_small negative positive ((isExponent_exponentOf positive Nat.one_pos).nonpos ?_)
    rw [Nat.cast_one, div_one]
    exact_mod_cast small
  · have value : ((2 ^ 53 : Nat) : ℚ) = (2 ^ 52 : Nat) * 2 ^ (1 : Int) := by norm_num
    have normal : IsNormal (.finite negative (2 ^ 52) 1) :=
      ⟨by norm_num, by decide, by decide, .inl le_rfl⟩
    refine ⟨2 ^ 52, 1, ofRatio_of_eq normal (by norm_num) Nat.one_pos ?_, value⟩
    rw [Nat.cast_one, div_one, value]

/-- An integer that is too long for a significand is rounded to an even one. -/
theorem ofRatio_large {negative sign : Bool} {magnitude significand : Nat} {exponent : Int}
    (positive : 0 < magnitude) (large : 0 < exponentOf magnitude 1)
    (found : ofRatio negative magnitude 1 = .finite sign significand exponent) :
    2 ≤ magnitude ∧ ∃ rounded : Nat, 2 ≤ rounded ∧ (rounded : ℚ) = significand * 2 ^ exponent := by
  have normal := isNormal_ofRatio negative magnitude Nat.one_pos
  rw [found] at normal
  have isExponent := isExponent_exponentOf positive Nat.one_pos
  have above : exponentOf magnitude 1 ≤ exponent := by
    rw [ofRatio_eq_carried negative 1 positive, carried] at found
    split at found
    · split at found
      · contradiction
      · injection found
        omega
    · split at found
      · contradiction
      · injection found
        omega
  have notLeast : ∀ other : Int, 0 < other → other ≠ leastExponent := by
    rintro _ above rfl
    exact absurd above (by decide)
  constructor
  · have full := isExponent.above.resolve_left (notLeast _ large)
    rw [Nat.cast_one, div_one, le_div_iff₀ (by positivity)] at full
    have power : (1 : ℚ) ≤ 2 ^ exponentOf magnitude 1 :=
      one_le_zpow₀ (by norm_num) (Int.le_of_lt large)
    have bound : (2 : ℚ) ≤ magnitude := by linarith
    exact_mod_cast bound
  · have full := normal.2.2.2.resolve_right (notLeast _ (lt_of_lt_of_le large above))
    refine ⟨significand * 2 ^ exponent.toNat, ?_, ?_⟩
    · exact le_trans (by omega) (Nat.le_mul_of_pos_right significand (Nat.pow_pos (by decide)))
    · rw [zpow_eq_pow (by omega)]
      push_cast
      rfl

theorem carried_ne_notANumber (negative : Bool) (significand : Nat) (exponent : Int) :
    carried negative significand exponent ≠ .notANumber := by
  unfold carried
  split <;> split <;> exact Binary64.noConfusion

/-- What is rounded is a number, be it an infinite one. -/
theorem ofRatio_ne_notANumber (negative : Bool) (numerator denominator : Nat) :
    ofRatio negative numerator denominator ≠ .notANumber := by
  unfold ofRatio
  split
  · exact Binary64.noConfusion
  · exact carried_ne_notANumber _ _ _

theorem ofRatio_of_ofInt? {value : Int} {number : Binary64} (found : ofInt? value = some number) :
    ofRatio (decide (value < 0)) value.natAbs 1 = number ∧ ∀ sign, number ≠ .infinite sign := by
  unfold ofInt? at found
  split at found
  · contradiction
  · rename_i finite
    obtain rfl := Option.some.inj found
    exact ⟨rfl, finite⟩

/-- A rounded integer is an integer, and it is zero or one only if it was before. -/
theorem toInt?_ofInt? {value : Int} {number : Binary64} (found : ofInt? value = some number) :
    ∃ whole, number.toInt? = some whole ∧ (whole = 0 ↔ value = 0) ∧ (whole = 1 ↔ value = 1) := by
  obtain ⟨rounded, notInfinite⟩ := ofRatio_of_ofInt? found
  rcases Nat.eq_zero_or_pos value.natAbs with none | positive
  · rw [none, ofRatio, if_pos rfl] at rounded
    have zeroValue : ((0 : Nat) : ℚ) = (0 : Nat) * 2 ^ leastExponent := by
      rw [Nat.cast_zero, zero_mul]
    have whole := toInt?_of_value (decide (value < 0)) zeroValue
    have same : signed (decide (value < 0)) 0 = value := by rw [← none, signed_natAbs]
    rw [same] at whole
    exact ⟨value, rounded ▸ whole, Iff.rfl, Iff.rfl⟩
  · rcases le_or_gt (exponentOf value.natAbs 1) 0 with small | large
    · obtain ⟨significand, exponent, same, exact'⟩ :=
        ofRatio_small (decide (value < 0)) positive small
      refine ⟨value, ?_, Iff.rfl, Iff.rfl⟩
      rw [← rounded, same, toInt?_of_value _ exact', signed_natAbs]
    · cases number with
      | notANumber => exact absurd rounded (ofRatio_ne_notANumber _ _ _)
      | infinite sign => exact absurd rfl (notInfinite sign)
      | finite sign significand exponent =>
        obtain ⟨several, whole, several', same⟩ := ofRatio_large positive large rounded
        refine ⟨signed sign whole, toInt?_of_value sign same, ?_⟩
        have magnitude := natAbs_signed sign whole
        omega

/-- An integer that is not rounded is found as a double, and the double is that integer. -/
theorem ofInt?_whole {value : Int} (few : value.natAbs ≤ 2 ^ 53) :
    ∃ number, ofInt? value = some number ∧ number.toInt? = some value := by
  rcases Nat.eq_zero_or_pos value.natAbs with none | positive
  · obtain rfl := Int.natAbs_eq_zero.mp none
    exact ⟨zero false, rfl, by decide +kernel⟩
  · obtain ⟨significand, exponent, same, exact'⟩ :=
      ofRatio_whole (decide (value < 0)) positive few
    refine ⟨.finite (decide (value < 0)) significand exponent, ?_, ?_⟩
    · rw [ofInt?, same]
    · rw [toInt?_of_value _ exact', signed_natAbs]

/-- A short integer is the same double whether it is rounded or its text is read. -/
theorem readNumber?_of_ofInt? {value : Int} {number : Binary64}
    (short : value.natAbs < 10 ^ wholeDigits) (found : ofInt? value = some number) :
    readNumber? (integerText value) = some number := by
  rw [readNumber?_integerText, ofDecimal_whole _ short, (ofRatio_of_ofInt? found).1]

end WorkQuery.Number.Binary64
