/-
This file proves that written days read back. A year takes four digits, a month and a day two each,
so that a written day has the length that the reader asks for and its numbers stand where the
reader looks for them (`read?_text`).
-/

import Mathlib.Data.List.GetD
import WorkQuery.Calendar.Date
import WorkQuery.Proofs.NumberText

namespace WorkQuery.Calendar.Date

open Number

/-! ### Widths -/

theorem length_paddedText {width value : Nat} (positive : 0 < width)
    (small : value < 10 ^ width) : (paddedText width value).toList.length = width := by
  have short := length_toDigits_le positive small
  rw [toList_paddedText, List.length_append, List.length_replicate]
  omega

theorem monthLength_le (year month : Nat) : monthLength year month ≤ 31 := by
  have lengths : ∀ length ∈ monthLengths year, length ≤ 31 := by
    unfold monthLengths
    split <;> decide
  unfold monthLength
  split
  · decide
  · rw [List.getD_eq_getElem?_getD]
    cases found : (monthLengths year)[month - 1]? with
    | none => decide
    | some length => exact lengths length (List.mem_of_getElem? found)

theorem month_le {year month : Nat} (positive : 0 < monthLength year month) : month ≤ 12 := by
  unfold monthLength at positive
  split at positive
  · contradiction
  · by_contra large
    have count : (monthLengths year).length = 12 := rfl
    rw [List.getD_eq_default _ _ (by omega)] at positive
    contradiction

theorem utf8ByteSize_ofList {characters : List Char}
    (single : ∀ character ∈ characters, character.utf8Size = 1) :
    (String.ofList characters).utf8ByteSize = characters.length := by
  induction characters with
  | nil => rfl
  | cons character characters inductionHypothesis =>
    have split : String.ofList (character :: characters) =
        String.singleton character ++ String.ofList characters := by
      rw [String.singleton_eq_ofList, ← String.ofList_append, List.singleton_append]
    rw [split, String.utf8ByteSize_append, String.utf8ByteSize_singleton,
      single character List.mem_cons_self,
      inductionHypothesis fun other member => single other (List.mem_cons_of_mem _ member),
      List.length_cons, Nat.add_comm]

theorem utf8Size_of_isDigit {digit : Char} (isDigit : digit.isDigit = true) :
    digit.utf8Size = 1 := by
  have range := toNat_of_isDigit isDigit
  rw [Char.utf8Size_eq_one_iff, UInt32.le_iff_toNat_le]
  exact le_trans range.2 (by decide)

/-! ### Reading -/

/-- A number of the expected width is read off the start of what follows. -/
theorem fixedNumber?_digits {digits rest : List Char} {count : Nat} (width : digits.length = count)
    (areDigits : ∀ digit ∈ digits, digit.isDigit) :
    fixedNumber? count (digits ++ rest) = some (digitsValue digits, rest) := by
  rw [fixedNumber?, List.take_left' width, List.drop_left' width]
  exact if_pos ⟨width, List.all_eq_true.mpr areDigits⟩

theorem fixedNumber?_paddedText {width value : Nat} (positive : 0 < width)
    (small : value < 10 ^ width) (rest : List Char) :
    fixedNumber? width ((paddedText width value).toList ++ rest) = some (value, rest) := by
  rw [fixedNumber?_digits (length_paddedText positive small) fun _ => isDigit_of_mem_paddedText,
    digitsValue_paddedText]

theorem toList_text (date : Date) :
    date.text.toList = (paddedText 4 date.year).toList ++
      ('-' :: ((paddedText 2 date.month).toList ++ ('-' :: (paddedText 2 date.day).toList))) := by
  simp [text]

theorem hyphen_or_isDigit_of_mem_text {date : Date} {character : Char}
    (member : character ∈ date.text.toList) : character = '-' ∨ character.isDigit = true := by
  rw [toList_text] at member
  rcases List.mem_append.mp member with year | member
  · exact .inr (isDigit_of_mem_paddedText year)
  · rcases List.mem_cons.mp member with hyphen | member
    · exact .inl hyphen
    · rcases List.mem_append.mp member with month | member
      · exact .inr (isDigit_of_mem_paddedText month)
      · exact (List.mem_cons.mp member).imp_right isDigit_of_mem_paddedText

theorem utf8Size_of_mem_text {date : Date} {character : Char}
    (member : character ∈ date.text.toList) : character.utf8Size = 1 := by
  rcases hyphen_or_isDigit_of_mem_text member with rfl | isDigit
  · decide
  · exact utf8Size_of_isDigit isDigit

/-- A written day reads back. -/
theorem read?_text (date : Date) : read? date.text = some date := by
  obtain ⟨-, year, first, last⟩ := date.isDay
  have month := month_le (lt_of_lt_of_le first last)
  have day := le_trans last (monthLength_le date.year date.month)
  have smallYear : date.year < 10 ^ 4 := by omega
  have smallMonth : date.month < 10 ^ 2 := by omega
  have smallDay : date.day < 10 ^ 2 := by omega
  have size : date.text.utf8ByteSize = 10 := by
    have bytes := utf8ByteSize_ofList fun character (member : character ∈ date.text.toList) =>
      utf8Size_of_mem_text member
    rw [String.ofList_toList] at bytes
    rw [bytes, toList_text]
    simp only [List.length_append, List.length_cons, length_paddedText, smallYear, smallMonth,
      smallDay, Nat.zero_lt_succ]
  have readYear := fixedNumber?_paddedText (by decide) smallYear
    ('-' :: ((paddedText 2 date.month).toList ++ ('-' :: (paddedText 2 date.day).toList)))
  have readMonth := fixedNumber?_paddedText (by decide) smallMonth
    ('-' :: (paddedText 2 date.day).toList)
  have readDay := fixedNumber?_paddedText (by decide) smallDay []
  rw [List.append_nil] at readDay
  obtain ⟨digit, digits, same⟩ := List.exists_cons_of_ne_nil (paddedText_ne_nil 2 date.month)
  have notWeek : digit ≠ 'W' :=
    ne_of_isDigit (isDigit_of_mem_paddedText (same ▸ List.mem_cons_self)) (by decide)
  rw [same] at readMonth readYear
  rw [read?, size, toList_text, same, readYear]
  simp only [Option.bind_eq_bind, Option.bind_some, afterHyphen?, List.head?_cons, decide_true,
    List.cons_append]
  rw [List.cons_append] at readMonth
  split
  · rename_i week
    exact absurd (List.cons.inj week).1 notWeek
  · rw [readMonth]
    simp only [Option.bind_some]
    rw [readDay]
    exact of?_fields date

end WorkQuery.Calendar.Date
