/-
This file says that the ways to write a filter for a day relative to today agree. The number of days
stands behind the mark in the operator, or among the values beside a bare mark, or in both places.
It takes different routes from there: what is part of a code is read as an integer and rounded to
stand in for a missing value, and what is a value is put behind a bare mark and read as a double.
Integers of up to fifty-three bits are not rounded on any of them, and so all of the ways write one
filter (`relative_spellings_agree`).
-/

import WorkQuery.Proofs.BareValue
import WorkQuery.Proofs.FilterCondition

namespace WorkQuery

namespace CompactForm

open Json Number Schema Text

/-! ### Spellings -/

/-- The values that give a number of days: an integer, and its text. -/
inductive IsCount (days : Int) : Value → Prop
  | int : IsCount days (.int days)
  | text : IsCount days (.text (integerText days))

/-- The operators, each with values, that write a relative kind with a number of days. -/
inductive Spells (kind : RelativeKind) (days : Int) : String → List Value → Prop
  | beside {value : Value} (isCount : IsCount days value) : Spells kind days kind.mark [value]
  | behind : Spells kind days (kind.mark ++ integerText days) []
  | both {value : Value} (isCount : IsCount days value) :
      Spells kind days (kind.mark ++ integerText days) [value]

variable {kind : RelativeKind} {days : Int}

theorem IsCount.plain_eq {value : Value} (isCount : IsCount days value) :
    value.plain = integerText days := by
  cases isCount <;> rfl

theorem IsCount.not_isUnshowable {value : Value} (isCount : IsCount days value)
    (short : days.natAbs < 10 ^ digitLimit) : ¬value.IsUnshowable := by
  cases isCount with
  | int => exact Value.not_isUnshowable_int (isTooLong_eq_false short)
  | text => exact Value.not_isUnshowable_text _

theorem IsCount.typedValue_eq {value : Value} (isCount : IsCount days value)
    (short : days.natAbs < 10 ^ digitLimit) (property : String) (operator : Operator) :
    typedValue property operator [value] = valueOfWords property operator [integerText days] := by
  have given : value ≠ .null := by
    rintro rfl
    cases isCount
  have showable : ∀ other ∈ [value], ¬other.IsUnshowable := by
    rw [List.forall_mem_singleton]
    exact isCount.not_isUnshowable short
  rw [typedValue_of_showable showable, wordsOf_singleton given, isCount.plain_eq]

/-! ### Operators -/

theorem Spells.operatorOfCode_eq {code : String} {values : List Value}
    (spells : Spells kind days code values) (short : days.natAbs < 10 ^ digitLimit) :
    operatorOfCode code values = .ok (some (.relative kind days)) := by
  have parsed : Operator.parse (kind.mark ++ integerText days) = .ok (some (.relative kind days)) :=
    Operator.parse_relative kind short
  cases spells with
  | beside isCount =>
    have written := word_eq_ok_iff.mpr ⟨isCount.not_isUnshowable short, isCount.plain_eq⟩
    rw [operatorOfCode_mark, written, ok_bind, parsed]
    rfl
  | behind | both => exact operatorOfCode_of_parse parsed

theorem Spells.parseOperator_eq {code : String} {values : List Value}
    (spells : Spells kind days code values) (short : days.natAbs < 10 ^ digitLimit)
    (property : String) : parseOperator property (.text code) values = .ok (.relative kind days) :=
  parseOperator_of_known (spells.operatorOfCode_eq short) nofun

/-! ### Values -/

theorem Spells.typedValue_eq {code : String} {values : List Value} {property : String}
    {number : Binary64} (spells : Spells kind days code values)
    (notIdentifier : PropertyClass.of property ≠ .identifier)
    (notTruth : PropertyClass.of property ≠ .truth) (short : days.natAbs < 10 ^ digitLimit)
    (rounded : Binary64.ofInt? days = some number)
    (read : readNumber? (integerText days) = some number) :
    typedValue property (.relative kind days) values = .ok (.number number) := by
  have counted : typedWords property (.relative kind days) [integerText days] =
      .ok (.number number) :=
    (typedWords_number_iff notIdentifier notTruth).mpr read
  cases spells with
  | beside isCount | both isCount =>
    rw [isCount.typedValue_eq short, @valueOfWords_of_ne _ (.relative kind days) _ nofun,
      counted]
  | behind =>
    rw [typedValue_of_unvalued rfl, @valueOfWords_of_ne _ (.relative kind days) _ nofun,
      typedWords_nil, defaultValue, Operator.days?]
    dsimp only
    rw [rounded]

/-- Whichever way it is written, a filter is read as the operator of the kind with the number of
days, with that number as its value. -/
theorem Spells.parseFilters_eq {code : String} {values : List Value} {property : String}
    {number : Binary64} (spells : Spells kind days code values)
    (notIdentifier : PropertyClass.of property ≠ .identifier)
    (notTruth : PropertyClass.of property ≠ .truth)
    (short : days.natAbs < 10 ^ Binary64.wholeDigits)
    (rounded : Binary64.ofInt? days = some number) :
    parseFilters (soleFilter property (.text code) (.list values)) =
      .ok ⟨[⟨property, .relative kind days, .number number⟩]⟩ := by
  have readable : days.natAbs < 10 ^ digitLimit :=
    short.trans_le (Nat.pow_le_pow_right (by decide) (by decide))
  have read := Binary64.readNumber?_of_ofInt? short rounded
  rw [parseFilters_soleFilter, rawValues_list, readSole, spells.parseOperator_eq readable, ok_bind,
    spells.typedValue_eq notIdentifier notTruth readable rounded read]
  rfl

end CompactForm

/-! ### One filter, one condition -/

open CompactForm Json Number Sql

/-- A filter for a day relative to today becomes the condition of its kind and its number of days,
if its property has a column. -/
theorem condition?_relative (property : String) (kind : RelativeKind) (days : Int)
    (number : Binary64) (user : Option Int) :
    condition? user ⟨property, .relative kind days, .number number⟩ =
      (filterColumn? property).map fun column => relativeCondition column days kind := by
  cases mapped : filterColumn? property with
  | none => exact condition?_of_unmapped mapped user
  | some column => exact condition?_of_taken mapped rfl user

/-- All ways to write a filter for a day relative to today write the same one, whose value is just
the number of days; so they select by the same condition. -/
theorem relative_spellings_agree {property : String}
    (notIdentifier : PropertyClass.of property ≠ .identifier)
    (notTruth : PropertyClass.of property ≠ .truth) (kind : RelativeKind) {days : Int}
    (few : days.natAbs ≤ 2 ^ 53) :
    ∃ number, Binary64.ofInt? days = some number ∧ number.toInt? = some days ∧
      (∀ code values, Spells kind days code values →
        parseFilters (soleFilter property (.text code) (.list values)) =
          .ok ⟨[⟨property, .relative kind days, .number number⟩]⟩) ∧
      ∀ user, condition? user ⟨property, .relative kind days, .number number⟩ =
        (filterColumn? property).map fun column => relativeCondition column days kind := by
  obtain ⟨number, rounded, whole⟩ := Binary64.ofInt?_whole few
  have short : days.natAbs < 10 ^ Binary64.wholeDigits := few.trans_lt (by decide +kernel)
  refine ⟨number, rounded, whole, fun code values spells => ?_, condition?_relative _ _ _ _⟩
  exact spells.parseFilters_eq notIdentifier notTruth short rounded

/-- A negative number of days may follow the mark, or stand beside it as a text. -/
theorem relative_spellings_agree_negative :
    ∃ number, number.toInt? = some (-5) ∧
      parseFilters (soleFilter "start_date" (.text "t--5") (.list [])) =
        .ok ⟨[⟨"start_date", .relative .daysAgo (-5), .number number⟩]⟩ ∧
      parseFilters (soleFilter "start_date" (.text "t-") (.list [.text "-5"])) =
        .ok ⟨[⟨"start_date", .relative .daysAgo (-5), .number number⟩]⟩ ∧
      condition? none ⟨"start_date", .relative .daysAgo (-5), .number number⟩ =
        some (.relative (.item .startDate) .equal .before (-5)) := by
  obtain ⟨number, -, whole, agree, condition⟩ :=
    relative_spellings_agree (by decide : PropertyClass.of "start_date" ≠ .identifier) (by decide)
      .daysAgo (by decide : (-5 : Int).natAbs ≤ 2 ^ 53)
  have written : integerText (-5) = "-5" := by decide +kernel
  have behind := agree _ _ .behind
  have beside := agree _ _ (.beside .text)
  rw [written] at behind beside
  exact ⟨number, whole, behind, beside, condition none⟩

end WorkQuery
