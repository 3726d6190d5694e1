/-
This file proves that the codes of operators read back. A fixed kind has its own code, except that
equality with the current user is read as plain equality (`parse_fixed`). A relative kind is told by
its mark, which begins no other code, and its day count reads back if it is within the digit limit
(`parse_relative`); no other day count is ever read (`natAbs_lt_of_parse`).
-/

import WorkQuery.Filter.Operator
import WorkQuery.Proofs.IntegerText

namespace WorkQuery

open Number Text

/-! ### Fixed kinds -/

/-- The kind that a code is read as. -/
def FixedKind.canonical : FixedKind → FixedKind
  | currentUserEquals => equals
  | kind => kind

theorem FixedKind.ofCode?_code (kind : FixedKind) : ofCode? kind.code = some kind.canonical := by
  cases kind <;> decide

theorem FixedKind.ofCode?_ne_currentUserEquals (code : String) :
    ofCode? code ≠ some currentUserEquals := by
  unfold ofCode?
  split
  · decide
  · split
    · decide
    · intro found
      have same := List.find?_some found
      rw [← beq_iff_eq.mp same] at found
      exact absurd found (by decide)

/-! ### Relative kinds -/

/-- A mark begins the code of no fixed kind. -/
theorem mark_not_isPrefixOf (relative : RelativeKind) :
    (∀ kind : FixedKind, relative.mark.toList.isPrefixOf kind.code.toList = false) ∧
      relative.mark.toList.isPrefixOf "o".toList = false ∧
      relative.mark.toList.isPrefixOf "c".toList = false := by
  refine ⟨fun kind => ?_, ?_, ?_⟩
  · cases relative <;> cases kind <;> decide
  · cases relative <;> decide
  · cases relative <;> decide

theorem ofCode?_of_mark {relative : RelativeKind} {code : String}
    (begins : relative.mark.toList.isPrefixOf code.toList = true) :
    FixedKind.ofCode? code = none := by
  obtain ⟨kinds, isNull, isNotNull⟩ := mark_not_isPrefixOf relative
  unfold FixedKind.ofCode?
  rw [if_neg, if_neg, List.find?_eq_none]
  · intro kind _ same
    rw [← beq_iff_eq.mp same, kinds kind] at begins
    contradiction
  · rintro rfl
    rw [isNotNull] at begins
    contradiction
  · rintro rfl
    rw [isNull] at begins
    contradiction

theorem isPrefixOf_mark (kind : RelativeKind) (rest : List Char) :
    kind.mark.toList.isPrefixOf (kind.mark.toList ++ rest) = true := by
  cases kind <;> rfl

/-- No mark begins another one, so that the kind is told by its mark. -/
theorem ofMark?_mark (kind : RelativeKind) (rest : List Char) :
    RelativeKind.ofMark? (kind.mark.toList ++ rest) = some kind := by
  cases kind <;> rfl

/-! ### Day counts -/

theorem withoutLineBreak_integerText (value : Int) :
    Operator.withoutLineBreak (integerText value).toList = (integerText value).toList := by
  rw [Operator.withoutLineBreak, if_neg]
  intro last
  rcases mem_integerText (List.mem_of_getLast? last) with hyphen | isDigit
  · exact absurd hyphen (by decide)
  · exact absurd isDigit (by decide)

/-- A written day count reads back unless it has too many digits. -/
theorem readDays_eq (days : Int) :
    Operator.readDays (integerText days).toList =
      if digitLimit < (Nat.toDigits 10 days.natAbs).length then
        .error (.text (integerText days) (.tooManyDigits (Nat.toDigits 10 days.natAbs).length))
      else .ok (some days) := by
  have areDigits : ∀ digit ∈ Nat.toDigits 10 days.natAbs, digit.isDigit :=
    fun _ => isDigit_of_mem_toDigits
  have value := digitsValue_toDigits days.natAbs
  rw [digitsValue] at value
  have found := mapM_decimalDigit? areDigits
  have nonempty : (Nat.toDigits 10 days.natAbs).map (fun digit => digit.toNat - '0'.toNat) ≠ [] :=
    fun empty => Nat.toDigits_ne_nil (List.map_eq_nil_iff.mp empty)
  obtain ⟨first, rest, values⟩ := List.exists_cons_of_ne_nil nonempty
  rw [Operator.readDays, withoutLineBreak_integerText, splitSign_integerText]
  dsimp only
  rw [found, values]
  dsimp only
  rw [← values, List.length_map, value, signed_natAbs, String.ofList_toList]

/-- A day count within the digit limit reads back. -/
theorem readDays_integerText {days : Int} (short : days.natAbs < 10 ^ digitLimit) :
    Operator.readDays (integerText days).toList = .ok (some days) := by
  rw [readDays_eq, if_neg (not_lt.mpr (length_toDigits_le (by decide) short))]

/-- No day count beyond the digit limit is ever read. -/
theorem natAbs_lt_of_readDays {characters : List Char} {days : Int}
    (read : Operator.readDays characters = .ok (some days)) : days.natAbs < 10 ^ digitLimit := by
  unfold Operator.readDays at read
  dsimp only at read
  split at read
  · cases read
  · cases read
  · rename_i values nonempty found
    split at read
    · cases read
    · rename_i short
      obtain rfl := Option.some.inj (Except.ok.inj read)
      rw [natAbs_signed]
      exact lt_of_lt_of_le (ofDigits_lt (mapM_decimalDigit?_le found))
        (Nat.pow_le_pow_right (by decide) (not_lt.mp short))

/-! ### Operators -/

namespace Operator

/-- The code of a fixed kind is read as that kind, or as plain equality. -/
theorem parse_fixed (kind : FixedKind) :
    parse (fixed kind).code = .ok (some (fixed kind.canonical)) := by
  rw [parse, code, FixedKind.ofCode?_code]

/-- What begins with a mark is read as that relative kind, whatever becomes of its day count. -/
theorem parse_mark (kind : RelativeKind) (count : String) :
    parse (kind.mark ++ count) =
      (readDays count.toList).map fun days? => days?.map (relative kind) := by
  have rest : (kind.mark.toList ++ count.toList).drop kind.mark.length = count.toList := by
    cases kind <;> rfl
  have begins := isPrefixOf_mark kind count.toList
  rw [← String.toList_append] at begins
  rw [parse, ofCode?_of_mark begins, String.toList_append, ofMark?_mark]
  dsimp only
  rw [rest]

theorem parse_relative_eq (kind : RelativeKind) (days : Int) :
    parse (relative kind days).code =
      (readDays (integerText days).toList).map fun days? => days?.map (relative kind) :=
  parse_mark kind (integerText days)

/-- The code of a relative kind reads back. -/
theorem parse_relative (kind : RelativeKind) {days : Int} (short : days.natAbs < 10 ^ digitLimit) :
    parse (relative kind days).code = .ok (some (relative kind days)) := by
  rw [parse_relative_eq, readDays_integerText short]
  rfl

theorem natAbs_lt_of_parse {written : String} {kind : RelativeKind} {days : Int}
    (read : parse written = .ok (some (relative kind days))) : days.natAbs < 10 ^ digitLimit := by
  unfold parse at read
  split at read
  · cases read
  · split at read
    · cases read
    · rename_i mark found
      cases count : readDays (written.toList.drop mark.mark.length) with
      | error fault =>
        rw [count] at read
        cases read
      | ok days? =>
        rw [count] at read
        cases days? with
        | none => cases read
        | some days' =>
          have same := Option.some.inj (Except.ok.inj read)
          injection same with _ sameDays
          exact sameDays ▸ natAbs_lt_of_readDays count

theorem parse_ne_currentUserEquals (written : String) :
    parse written ≠ .ok (some (fixed .currentUserEquals)) := by
  intro read
  unfold parse at read
  split at read
  · rename_i kind found
    have same := Option.some.inj (Except.ok.inj read)
    injection same with sameKind
    exact FixedKind.ofCode?_ne_currentUserEquals written (sameKind ▸ found)
  · split at read
    · cases read
    · rename_i mark found
      cases count : readDays (written.toList.drop mark.mark.length) with
      | error fault =>
        rw [count] at read
        cases read
      | ok days? =>
        rw [count] at read
        cases days? <;> cases read

end Operator

end WorkQuery
