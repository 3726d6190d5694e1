/-
This file proves that filters keep their conditions when they are stored. A stored filter is read
back under the types that its property prescribes, and may then hold another value: a day count
that stood for itself comes back as an identifier, and a zero may lose its sign. A relative operator
takes no notice of its value, though, and all other operators are read back with a value that has
the same literals (`alike_of_typedValue`). Hence the conditions of the filters are the same, for
everyone (`filterConditions_stored`).
-/

import WorkQuery.Proofs.CompactRoundTrip
import WorkQuery.Proofs.FilterCondition

namespace WorkQuery.Sql

open CompactForm Number

/-! ### Numbers -/

/-- The literal of a number that is an integer is that integer. -/
theorem numberLiteral?_whole {negative : Bool} {significand : Nat} {exponent whole : Int}
    (found : Binary64.toInt? (.finite negative significand exponent) = some whole) :
    numberLiteral? (.finite negative significand exponent) = some (.integer whole) := by
  unfold numberLiteral?
  rw [found]
  rfl

theorem numberLiteral?_zero (negative : Bool) :
    numberLiteral? (Binary64.zero negative) = some (.integer 0) := by
  have value : ((0 : Nat) : ℚ) = (0 : Nat) * 2 ^ Binary64.leastExponent := by
    rw [Nat.cast_zero, zero_mul]
  have whole := Binary64.toInt?_of_value negative value
  cases negative <;> exact numberLiteral?_whole whole

/-- A number that is read back from its words has the literal that it had before. -/
theorem numberLiteral?_again {number again : Binary64} (normal : number.IsNormal)
    (read : readNumber? (numberText number) = some again) :
    numberLiteral? again = numberLiteral? number := by
  rcases eq_or_zero_of_readNumber? normal read with rfl | ⟨left, right, rfl, rfl⟩
  · rfl
  · rw [numberLiteral?_zero, numberLiteral?_zero]

/-! ### Values -/

/-- Values are alike if they are the same, or numbers with the same literal. -/
inductive Alike : FilterValue → FilterValue → Prop
  | same (value : FilterValue) : Alike value value
  | numbers {left right : Binary64} (literal : numberLiteral? left = numberLiteral? right) :
    Alike (.number left) (.number right)

theorem Alike.literals_eq {left right : FilterValue} (alike : Alike left right)
    (user : Option Int) : literals user left = literals user right := by
  cases alike with
  | same => rfl
  | numbers literal => exact congrArg Option.toList literal

theorem Alike.isAbsent_iff {left right : FilterValue} (alike : Alike left right) :
    left = .absent ↔ right = .absent := by
  cases alike with
  | same => rfl
  | numbers literal => exact iff_of_false nofun nofun

/-- Alike values have the same condition under an operator of a fixed kind. -/
theorem Alike.fixedCondition?_eq {left right : FilterValue} (alike : Alike left right)
    (column : Reference) (user : Option Int) (kind : FixedKind) :
    fixedCondition? column left user kind = fixedCondition? column right user kind := by
  have sameLiterals := alike.literals_eq user
  have membership (negated : Bool) :
      membership? column negated left user = membership? column negated right user := by
    unfold membership?
    rw [sameLiterals]
    cases alike with
    | same => rfl
    | @numbers left right literal =>
      have impersonal (number : Binary64) :
          ¬(FilterValue.number number = .currentUser ∧ user = none) := fun both => nomatch both.1
      rw [if_neg (impersonal left), if_neg (impersonal right)]
  have comparison (sign : Comparison) :
      comparison? column sign left user = comparison? column sign right user := by
    unfold comparison?
    rw [sameLiterals]
  cases kind with
  | equals | notEquals => exact membership _
  | greaterThan | greaterOrEqual | lessThan | lessOrEqual => exact comparison _
  | contains | notContains | startsWith | endsWith | between =>
    cases alike <;> rfl
  | _ => rfl

/-! ### Stored filters -/

theorem ofIds_ne_absent (ids : List Int) : FilterValue.ofIds ids ≠ .absent := by
  unfold FilterValue.ofIds
  split <;> exact nofun

theorem ofTexts_ne_absent (words : List String) : FilterValue.ofTexts words ≠ .absent := by
  unfold FilterValue.ofTexts
  split <;> exact nofun

theorem value_ne_absent_of_relative {property : String} {kind : RelativeKind} {days : Int}
    {value : FilterValue} (holds : Holds property (.relative kind days) value) :
    value ≠ .absent := by
  rintro rfl
  generalize same : FilterValue.absent = value at holds
  cases holds with
  | range isRange => cases isRange
  | words noRange holds =>
    cases holds with
    | absent noDays => cases noDays
    | identifiers => exact absurd same.symm (ofIds_ne_absent _)
    | texts => exact absurd same.symm (ofTexts_ne_absent _)
    | _ => cases same

/-- Under an operator of a fixed kind, a stored value is read back as one that is alike. -/
theorem alike_of_typedValue {filter : Filter} {kind : FixedKind} {again : FilterValue}
    (read : IsRead filter) (isFixed : filter.operator = .fixed kind)
    (typed : typedValue filter.property filter.operator ((valueTexts filter.value).map .text) =
      .ok again) : Alike again filter.value := by
  have ordinary : ¬KeepsCount filter := by
    intro keeps
    have relative := keeps.2.1
    rw [isFixed] at relative
    cases relative
  by_cases isNumber : ∃ number, filter.value = .number number
  · obtain ⟨number, isNumber⟩ := isNumber
    obtain ⟨other, rfl, normal, readAgain⟩ :=
      exists_number_of_typedValue read ordinary isNumber typed
    rw [isNumber]
    exact .numbers (numberLiteral?_again normal readAgain)
  · rw [eq_of_typedValue read ordinary (fun number same => isNumber ⟨number, same⟩) typed]
    exact .same filter.value

/-- A stored filter is read back as one with the same condition, for everyone. -/
theorem condition?_stored {filter again : Filter} (read : IsRead filter)
    (parsed : parseMember filter.property (memberBody filter) = .ok again) (user : Option Int) :
    condition? user again = condition? user filter := by
  obtain ⟨property, operator, value⟩ := filter
  rw [parseMember_memberBody read] at parsed
  obtain ⟨other, typed, rfl⟩ := map_eq_ok.mp parsed
  rw [condition?_eq, condition?_eq]
  unfold Filter.isValid
  dsimp only
  cases operator with
  | fixed kind =>
    have alike := alike_of_typedValue read rfl typed
    have absent : (other != .absent) = (value != .absent) := by
      rw [Bool.eq_iff_iff, bne_iff_ne, bne_iff_ne, ne_eq, alike.isAbsent_iff]
    have same (column : Reference) :
        operatorCondition? column (.fixed kind) other user =
          operatorCondition? column (.fixed kind) value user :=
      alike.fixedCondition?_eq column user kind
    simp only [absent, same]
  | relative kind days =>
    have present : (value != .absent) = true :=
      bne_iff_ne.mpr (value_ne_absent_of_relative read.holds)
    have presentAgain : (other != .absent) = true :=
      bne_iff_ne.mpr (value_ne_absent_of_relative (holds_of_typedValue typed))
    rw [present, presentAgain]
    rfl

/-- Stored filters are read back as filters with the same conditions, for everyone. -/
theorem filterConditions_stored {filters again : FilterSet}
    (read : ∀ filter ∈ filters.filters, IsRead filter)
    (parsed : parseFilters (filtersValue filters) = .ok again) (user : Option Int) :
    filterConditions user again = filterConditions user filters :=
  filterConditions_congr (map_of_parseFilters
    (fun filter member _ parsed => condition?_stored (read filter member) parsed user) parsed)

end WorkQuery.Sql
