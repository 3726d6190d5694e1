/-
This file puts days in order: by their years, within a year by their months, and within a month by
their numbers. Written days have one length, so that their texts are in the order of the days
(`compare_text`). A moment in the tables begins with its day and goes on after it, so that its text
comes after the text of its own day, but before that of every later day (`compare_storedText`).
-/

import WorkQuery.Calendar.Moment
import WorkQuery.Proofs.DateText

namespace WorkQuery

/-! ### Texts of one length -/

namespace Number

/-- Texts with starts of one length are in the order of the starts, or of what follows them. -/
theorem append_lt_append_iff {first second rest others : List Char}
    (same : first.length = second.length) :
    first ++ rest < second ++ others ↔ first < second ∨ first = second ∧ rest < others := by
  induction first generalizing second with
  | nil =>
    obtain rfl := List.eq_nil_of_length_eq_zero same.symm
    simp
  | cons character first inductionHypothesis =>
    cases second with
    | nil => cases same
    | cons other second =>
      rw [List.cons_append, List.cons_append, List.cons_lt_cons_iff, List.cons_lt_cons_iff,
        inductionHypothesis (Nat.succ.inj same), List.cons.injEq]
      tauto

theorem compare_eq_ite (left right : String) :
    compare left right =
      if left.toList < right.toList then .lt else if left = right then .eq else .gt := rfl

theorem digitsValue_cons (digit : Char) (digits : List Char) :
    digitsValue (digit :: digits) =
      (digit.toNat - 48) * 10 ^ digits.length + digitsValue digits := by
  have single : digitsValue [digit] = digit.toNat - 48 := by
    simp [digitsValue, ofDigits]
  rw [← List.singleton_append, digitsValue_append, single]

theorem digitsValue_lt {digits : List Char} (areDigits : ∀ digit ∈ digits, digit.isDigit) :
    digitsValue digits < 10 ^ digits.length := by
  have small : ∀ value ∈ digits.map (fun digit => digit.toNat - '0'.toNat), value ≤ 9 := by
    rw [List.forall_mem_map]
    intro digit member
    have range := toNat_of_isDigit (areDigits digit member)
    change digit.toNat - 48 ≤ 9
    omega
  have bound := ofDigits_lt small
  rwa [List.length_map] at bound

theorem mul_add_lt_iff {left right rest others unit : Nat} (small : rest < unit)
    (smallToo : others < unit) :
    left * unit + rest < right * unit + others ↔
      left < right ∨ left = right ∧ rest < others := by
  rcases lt_trichotomy left right with less | rfl | greater
  · have next : (left + 1) * unit ≤ right * unit := Nat.mul_le_mul_right unit less
    rw [Nat.succ_mul] at next
    omega
  · omega
  · have next : (right + 1) * unit ≤ left * unit := Nat.mul_le_mul_right unit greater
    rw [Nat.succ_mul] at next
    omega

/-- Numbers with the same count of digits are in the order of their texts. -/
theorem digits_lt_iff {first second : List Char} (same : first.length = second.length)
    (areDigits : ∀ digit ∈ first, digit.isDigit) (areDigitsToo : ∀ digit ∈ second, digit.isDigit) :
    first < second ↔ digitsValue first < digitsValue second := by
  induction first generalizing second with
  | nil =>
    obtain rfl := List.eq_nil_of_length_eq_zero same.symm
    simp
  | cons digit first inductionHypothesis =>
    cases second with
    | nil => cases same
    | cons other second =>
      rw [List.forall_mem_cons] at areDigits areDigitsToo
      have same := Nat.succ.inj same
      have range := toNat_of_isDigit areDigits.1
      have rangeToo := toNat_of_isDigit areDigitsToo.1
      have small := digitsValue_lt areDigits.2
      have smallToo := digitsValue_lt areDigitsToo.2
      rw [List.cons_lt_cons_iff, inductionHypothesis same areDigits.2 areDigitsToo.2,
        digitsValue_cons, digitsValue_cons, same, mul_add_lt_iff (same ▸ small) smallToo]
      have less : digit < other ↔ digit.toNat - 48 < other.toNat - 48 := by
        rw [Char.lt_def, UInt32.lt_iff_toNat_lt]
        change digit.toNat < other.toNat ↔ _
        omega
      have equal : digit = other ↔ digit.toNat - 48 = other.toNat - 48 := by
        rw [← Char.toNat_inj]
        omega
      rw [less, equal]

theorem paddedText_lt_iff {width left right : Nat} (positive : 0 < width)
    (small : left < 10 ^ width) (smallToo : right < 10 ^ width) :
    (paddedText width left).toList < (paddedText width right).toList ↔ left < right := by
  have same : (paddedText width left).toList.length = (paddedText width right).toList.length := by
    rw [Calendar.Date.length_paddedText positive small,
      Calendar.Date.length_paddedText positive smallToo]
  rw [digits_lt_iff same (fun _ => isDigit_of_mem_paddedText) fun _ => isDigit_of_mem_paddedText,
    digitsValue_paddedText, digitsValue_paddedText]

theorem paddedText_inj {width left right : Nat} :
    (paddedText width left).toList = (paddedText width right).toList ↔ left = right := by
  refine ⟨fun same => ?_, fun same => same ▸ rfl⟩
  have value := congrArg digitsValue same
  rwa [digitsValue_paddedText, digitsValue_paddedText] at value

end Number

/-! ### Days in order -/

namespace Calendar

open Number

namespace Date

instance : LT Date where
  lt left right :=
    left.year < right.year ∨ left.year = right.year ∧
      (left.month < right.month ∨ left.month = right.month ∧ left.day < right.day)

instance : LE Date where
  le left right := left < right ∨ left = right

instance (left right : Date) : Decidable (left < right) :=
  inferInstanceAs (Decidable (_ ∨ _))

instance (left right : Date) : Decidable (left ≤ right) :=
  inferInstanceAs (Decidable (_ ∨ _))

/-- The number that a day writes without its hyphens, by which days are in order. -/
def written (date : Date) : Nat :=
  date.year * 10000 + date.month * 100 + date.day

theorem bounds (date : Date) : date.year < 10 ^ 4 ∧ date.month < 10 ^ 2 ∧ date.day < 10 ^ 2 := by
  obtain ⟨-, year, first, last⟩ := date.isDay
  have month := month_le (lt_of_lt_of_le first last)
  have day := le_trans last (monthLength_le date.year date.month)
  omega

theorem lt_iff {left right : Date} : left < right ↔ left.written < right.written := by
  have bounds := left.bounds
  have boundsToo := right.bounds
  change (_ ∨ _) ↔ _
  unfold written
  omega

theorem eq_iff {left right : Date} : left = right ↔ left.written = right.written := by
  have bounds := left.bounds
  have boundsToo := right.bounds
  refine ⟨fun same => same ▸ rfl, fun same => ?_⟩
  obtain ⟨year, month, day, isDay⟩ := left
  obtain ⟨year', month', day', isDay'⟩ := right
  unfold written at same
  dsimp only at *
  rw [Date.mk.injEq]
  omega

theorem le_iff {left right : Date} : left ≤ right ↔ left.written ≤ right.written := by
  change (_ ∨ _) ↔ _
  rw [lt_iff, eq_iff]
  omega

/-! ### Texts of days and moments -/

theorem length_text (date : Date) : date.text.toList.length = 10 := by
  obtain ⟨year, month, day⟩ := date.bounds
  rw [toList_text]
  simp only [List.length_append, List.length_cons, length_paddedText, year, month, day,
    Nat.zero_lt_succ]

theorem text_lt_iff {left right : Date} : left.text.toList < right.text.toList ↔ left < right := by
  obtain ⟨year, month, day⟩ := left.bounds
  obtain ⟨year', month', day'⟩ := right.bounds
  have width {count first second : Nat} (small : first < 10 ^ (count + 1))
      (smallToo : second < 10 ^ (count + 1)) :
      (paddedText (count + 1) first).toList.length =
        (paddedText (count + 1) second).toList.length := by
    rw [length_paddedText (Nat.succ_pos count) small,
      length_paddedText (Nat.succ_pos count) smallToo]
  have hyphen {rest others : List Char} : '-' :: rest < '-' :: others ↔ rest < others := by
    rw [List.cons_lt_cons_iff, and_iff_right rfl, or_iff_right (by decide)]
  rw [toList_text, toList_text, append_lt_append_iff (width year year'), hyphen,
    append_lt_append_iff (width month month'), hyphen, paddedText_lt_iff (by decide) year year',
    paddedText_lt_iff (by decide) month month', paddedText_lt_iff (by decide) day day',
    paddedText_inj, paddedText_inj]
  rfl

theorem text_inj {left right : Date} : left.text = right.text ↔ left = right := by
  refine ⟨fun same => ?_, fun same => same ▸ rfl⟩
  have read := congrArg read? same
  rw [read?_text, read?_text] at read
  exact Option.some.inj read

/-- The texts of days are in the order of the days. -/
theorem compare_text (left right : Date) :
    compare left.text right.text = compare left.written right.written := by
  change _ = compareOfLessAndEq left.written right.written
  unfold compareOfLessAndEq
  rw [compare_eq_ite]
  simp only [text_lt_iff, text_inj, lt_iff, eq_iff]

end Date

/-- The text of a moment comes before that of a day if the day of the moment does, and after it
otherwise, even if it is the same day. -/
theorem Moment.compare_storedText (moment : Moment) (day : Date) :
    compare moment.storedText day.text =
      (compare moment.date.written day.written).then .gt := by
  have split : moment.storedText.toList = moment.date.text.toList ++
      ' ' :: (moment.clockText ++ "." ++ paddedText 6 moment.microsecond).toList := by
    simp [storedText]
  have longer : moment.storedText ≠ day.text := by
    intro same
    have lengths := congrArg List.length split
    rw [same, List.length_append, List.length_cons, Date.length_text, Date.length_text] at lengths
    omega
  have less : moment.storedText.toList < day.text.toList ↔ moment.date < day := by
    rw [split, ← List.append_nil day.text.toList,
      append_lt_append_iff (moment.date.length_text.trans day.length_text.symm), Date.text_lt_iff]
    exact or_iff_left fun both => List.not_lt_nil _ both.2
  rw [compare_eq_ite, if_neg longer]
  split
  · rename_i before
    rw [Nat.compare_eq_lt.mpr (Date.lt_iff.mp (less.mp before))]
    rfl
  · rename_i after
    have notBefore : compare moment.date.written day.written ≠ .lt := by
      rwa [less, Date.lt_iff, ← Nat.compare_eq_lt] at after
    cases order : compare moment.date.written day.written with
    | lt => exact absurd order notBefore
    | eq | gt => rfl

end Calendar

end WorkQuery
