/-
This file proves that filters settle when they are stored. A filter of a body may be read back from
its row with another value: a day count that stands in for a missing identifier comes back as an
identifier. What was read back once is not read differently again, though. A number keeps its words
(`numberText_again`), every other value is read back as it was, and no day count stands in for
anything any more (`not_keepsCount_of_stored`). So a row that is read and written again keeps the
compact form of its filters (`filtersValue_settled`).
-/

import WorkQuery.Proofs.CompactRoundTrip
import WorkQuery.Proofs.StoredQuery

namespace WorkQuery.CompactForm

open Json Number Schema

/-! ### Values -/

/-- The words of a value are read as a value with the same words. -/
theorem valueTexts_again {filter : Filter} {again : FilterValue} (read : IsRead filter)
    (ordinary : ¬KeepsCount filter)
    (typed : typedValue filter.property filter.operator ((valueTexts filter.value).map .text) =
      .ok again) : valueTexts again = valueTexts filter.value := by
  by_cases isNumber : ∃ number, filter.value = .number number
  · obtain ⟨number, isNumber⟩ := isNumber
    obtain ⟨other, rfl, normal, readAgain⟩ :=
      exists_number_of_typedValue read ordinary isNumber typed
    rw [isNumber, valueTexts, valueTexts, numberText_again normal readAgain]
  · rw [eq_of_typedValue read ordinary (fun number same => isNumber ⟨number, same⟩) typed]

/-- A filter that compares with a day relative to today has words. -/
theorem valueTexts_ne_nil_of_relative {property : String} {kind : RelativeKind} {days : Int}
    {value : FilterValue} (holds : Holds property (.relative kind days) value) :
    valueTexts value ≠ [] := by
  cases holds with
  | range isRange => cases isRange
  | words noRange holds =>
    cases holds with
    | absent noDays => cases noDays
    | identifiers isClass nonempty single read =>
      rw [valueTexts_ofIds]
      intro empty
      have count := (mapM_readInteger read).1
      rw [List.map_eq_nil_iff.mp empty] at count
      exact nonempty (List.length_eq_zero_iff.mp count.symm)
    | texts isClass nonempty =>
      rw [valueTexts_ofTexts]
      exact nonempty
    | _ => exact List.cons_ne_nil _ _

/-! ### Filters -/

/-- In what is read of a written filter, no day count stands in for a missing value: a filter that
has one is written with a word. -/
theorem not_keepsCount_of_stored {filter other : Filter} (read : IsRead filter)
    (parsed : parseMember filter.property (memberBody filter) = .ok other) :
    ¬KeepsCount other := by
  intro keeps
  obtain ⟨-, noWords, kind, days, readOperator⟩ :=
    @defaultsToCount_of_keepsCount (filter.property, memberBody filter) other parsed keeps
  have noWords : wordsOf ((valueTexts filter.value).map .text) = [] := noWords
  have readOperator : parseOperator filter.property (.text filter.operator.code)
      ((valueTexts filter.value).map .text) = .ok (.relative kind days) := readOperator
  rw [wordsOf_texts] at noWords
  rw [parseOperator_code read] at readOperator
  have holds := read.holds
  rw [Except.ok.inj readOperator] at holds
  exact valueTexts_ne_nil_of_relative holds noWords

/-- A filter is written like what is read of the written filter. -/
theorem filterValue_again {filter other : Filter} (read : IsRead filter)
    (ordinary : ¬KeepsCount filter)
    (parsed : parseMember filter.property (memberBody filter) = .ok other) :
    filterValue other = filterValue filter := by
  rw [parseMember_memberBody read] at parsed
  obtain ⟨again, typed, rfl⟩ := map_eq_ok.mp parsed
  change Value.object [(filter.property, .object [("operator", .text filter.operator.code),
    ("values", .texts (valueTexts again))])] = _
  rw [valueTexts_again read ordinary typed]
  rfl

theorem forall_not_keepsCount_of_stored {filters again : FilterSet}
    (read : ∀ filter ∈ filters.filters, IsRead filter)
    (parsed : parseFilters (filtersValue filters) = .ok again) :
    ∀ filter ∈ again.filters, ¬KeepsCount filter := by
  rw [parseFilters_filtersValue] at parsed
  obtain ⟨others, found, rfl⟩ := map_eq_ok.mp parsed
  have related := forall₂_mapM found
  clear parsed found
  generalize filters.filters = given at read related
  dsimp only
  induction related with
  | nil => exact List.forall_mem_nil _
  | cons first _ inductionHypothesis =>
    rw [List.forall_mem_cons] at read ⊢
    exact ⟨not_keepsCount_of_stored read.1 first, inductionHypothesis read.2⟩

/-- Filters that were read back from a row are written as they are read back from the row that they
are written to. -/
theorem filtersValue_settled {filters again later : FilterSet}
    (read : ∀ filter ∈ filters.filters, IsRead filter)
    (parsed : parseFilters (filtersValue filters) = .ok again)
    (parsedAgain : parseFilters (filtersValue again) = .ok later) :
    filtersValue later = filtersValue again := by
  have readAgain := isRead_of_parseFilters parsed
  have ordinary := forall_not_keepsCount_of_stored read parsed
  have same := map_of_parseFilters (fun filter member other =>
    filterValue_again (readAgain filter member) (ordinary filter member)) parsedAgain
  exact congrArg Value.list same

end WorkQuery.CompactForm
