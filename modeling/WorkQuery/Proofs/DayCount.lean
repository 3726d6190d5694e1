/-
This file says which filters of the compact form are not read back. A relative operator that is
given no value keeps its day count as a number. Under a property with identifiers the written count
is read as an identifier. Under a property with a truth value it is read as one only if it is zero
or one; any other count is stray, and filters that hold a stray count are written but not read
(`parseFilters_filtersValue_iff`).
-/

import WorkQuery.Proofs.CompactRoundTrip

namespace WorkQuery.CompactForm

open Json Number Schema Text

/-! ### Stray counts -/

/-- A filter that was read and that keeps a day count other than zero and one in the place of a
truth value. -/
structure IsStray (filter : Filter) : Prop where
  read : IsRead filter
  isTruth : PropertyClass.of filter.property = .truth
  counts : ∃ days number, filter.operator.days? = some days ∧ days ≠ 0 ∧ days ≠ 1 ∧
    filter.value = .number number

/-- A count that stands in for a missing value is the rounded day count of the operator. -/
theorem count_of_keepsCount {filter : Filter} (read : IsRead filter) (keeps : KeepsCount filter) :
    ∃ days number, filter.operator.days? = some days ∧
      Binary64.ofInt? days = some number ∧ filter.value = .number number := by
  obtain ⟨property, operator, value⟩ := filter
  obtain ⟨other, relative, number, rfl⟩ := keeps
  cases read.holds with
  | words noRange holds =>
    obtain rfl := holds.eq_nil_of_number rfl other
    generalize same : FilterValue.number number = value at holds
    cases holds with
    | count counts rounded => exact ⟨_, _, counts, rounded, rfl⟩
    | identifiers _ nonempty | texts _ nonempty | number _ nonempty => contradiction
    | _ => cases same

/-! ### Words of counts -/

theorem numberText_of_toInt? {number : Binary64} {whole : Int}
    (found : number.toInt? = some whole) : numberText number = integerText whole := by
  rw [numberText, found]

/-- A written count is read as an identifier where identifiers are expected. -/
theorem typedWords_count_identifier {property : String} {operator : Operator} {days : Int}
    {number : Binary64} (isClass : PropertyClass.of property = .identifier)
    (rounded : Binary64.ofInt? days = some number) :
    ∃ value, typedWords property operator [numberText number] = .ok value := by
  obtain ⟨whole, found, -⟩ := Binary64.toInt?_ofInt? rounded
  have short := Binary64.natAbs_lt_of_toInt? (Binary64.isNormal_ofInt? rounded) found
  refine ⟨.ofIds [whole], ?_⟩
  rw [numberText_of_toInt? found]
  refine @typedWords_identifiers _ _ [whole] isClass (List.cons_ne_nil _ _) (fun _ => le_rfl) ?_
  exact fun id member => List.mem_singleton.mp member ▸ short

theorem toLower_of_isDigit {digit : Char} (isDigit : digit.isDigit = true) :
    digit.toLower = digit := by
  have range := toNat_of_isDigit isDigit
  unfold Char.toLower
  refine dif_neg ?_
  rintro ⟨above, -⟩
  rw [ge_iff_le, UInt32.le_iff_toNat_le] at above
  exact absurd (above.trans range.2) (by decide)

theorem lowered_integerText (whole : Int) : lowered (integerText whole) = integerText whole := by
  have unchanged : ∀ character ∈ (integerText whole).toList, character.toLower = character := by
    intro character member
    rcases mem_integerText member with rfl | isDigit
    · rfl
    · exact toLower_of_isDigit isDigit
  rw [lowered, List.map_congr_left unchanged, List.map_id', String.ofList_toList]

/-- The words that mean true or false are no integers, but for the digits one and zero. -/
theorem readInteger_words :
    (∀ word ∈ CompactForm.trueWords, (readInteger word).toOption ∈ [none, some 1]) ∧
      ∀ word ∈ CompactForm.falseWords, (readInteger word).toOption ∈ [none, some 0] := by
  decide +kernel

/-- An integer is written like one of some words only if it is read from that word. -/
theorem eq_of_contains_integerText {words : List String} {whole only : Int}
    (read : ∀ word ∈ words, (readInteger word).toOption ∈ [none, some only])
    (short : whole.natAbs < 10 ^ digitLimit)
    (member : words.contains (integerText whole) = true) : whole = only := by
  have found := read _ (List.contains_iff_mem.mp member)
  rw [readInteger_integerText short] at found
  simpa [Except.toOption] using found

/-- Of the integers only zero and one are written like a truth value. -/
theorem singleValue_truth_integerText (property : String) {whole : Int}
    (short : whole.natAbs < 10 ^ digitLimit) :
    (∃ value, singleValue property (integerText whole) .truth = .ok value) ↔
      whole = 0 ∨ whole = 1 := by
  constructor
  · rintro ⟨value, read⟩
    unfold singleValue at read
    dsimp only at read
    rw [lowered_integerText] at read
    split at read
    · rename_i isTrue
      exact .inr (eq_of_contains_integerText readInteger_words.1 short isTrue)
    · split at read
      · rename_i isFalse
        exact .inl (eq_of_contains_integerText readInteger_words.2 short isFalse)
      · cases read
  · rintro (rfl | rfl)
    · exact ⟨.truth false, rfl⟩
    · exact ⟨.truth true, rfl⟩

/-- A written count is read as a truth value only if it is zero or one. -/
theorem typedWords_count_truth {property : String} {operator : Operator} {days : Int}
    {number : Binary64} (isClass : PropertyClass.of property = .truth)
    (current : operator ≠ .fixed .currentUserEquals)
    (rounded : Binary64.ofInt? days = some number) :
    (∃ value, typedWords property operator [numberText number] = .ok value) ↔
      days = 0 ∨ days = 1 := by
  obtain ⟨whole, found, isZero, isOne⟩ := Binary64.toInt?_ofInt? rounded
  have short := Binary64.natAbs_lt_of_toInt? (Binary64.isNormal_ofInt? rounded) found
  have effective : effectiveClass property operator = .truth := by
    unfold effectiveClass
    rw [isClass]
  rw [numberText_of_toInt? found, typedWords_singleValue effective nofun nofun current,
    singleValue_truth_integerText property short, isZero, isOne]

/-! ### Reading back -/

/-- The written value of a filter that was read can be read again unless it is a stray count. -/
theorem typedValue_isOk_iff {filter : Filter} (read : IsRead filter) :
    (∃ value, typedValue filter.property filter.operator
      ((valueTexts filter.value).map .text) = .ok value) ↔ ¬IsStray filter := by
  by_cases keeps : KeepsCount filter
  · obtain ⟨days, number, counts, rounded, value⟩ := count_of_keepsCount read keeps
    have noRange : filter.operator ≠ .fixed .between := by
      intro same
      rw [same] at counts
      cases counts
    have current : filter.operator ≠ .fixed .currentUserEquals := by
      intro same
      rw [same] at counts
      cases counts
    rw [typedValue_texts _ noRange, value, valueTexts]
    rcases keeps.1 with isClass | isClass
    · refine iff_of_true (typedWords_count_identifier isClass rounded) fun stray => ?_
      rw [stray.isTruth] at isClass
      cases isClass
    · rw [typedWords_count_truth isClass current rounded]
      constructor
      · rintro usual ⟨-, -, days', number', counts', notZero, notOne, -⟩
        obtain rfl := Option.some.inj (counts.symm.trans counts')
        exact usual.elim notZero notOne
      · intro ordinary
        by_contra unusual
        rw [not_or] at unusual
        exact ordinary ⟨read, isClass, days, number, counts, unusual.1, unusual.2, value⟩
  · obtain ⟨value, typed, -⟩ := typedValue_again read keeps
    refine iff_of_true ⟨value, typed⟩ fun stray => keeps ?_
    obtain ⟨days, number, counts, -, -, same⟩ := stray.counts
    exact ⟨.inr stray.isTruth, isRelative_of_days? counts, number, same⟩

/-- What is written of a filter that was read can be read again unless it keeps a stray count. -/
theorem parseMember_isOk_iff {filter : Filter} (read : IsRead filter) :
    (∃ again, parseMember filter.property (memberBody filter) = .ok again) ↔ ¬IsStray filter := by
  rw [parseMember_memberBody read, ← typedValue_isOk_iff read]
  constructor
  · rintro ⟨again, parsed⟩
    obtain ⟨value, typed, -⟩ := map_eq_ok.mp parsed
    exact ⟨value, typed⟩
  · rintro ⟨value, typed⟩
    exact ⟨_, map_eq_ok.mpr ⟨value, typed, rfl⟩⟩

/-- What is written of filters can be read again unless one of them keeps a stray count. -/
theorem parseFilters_filtersValue_iff {filters : FilterSet}
    (read : ∀ filter ∈ filters.filters, IsRead filter) :
    (∃ again, parseFilters (filtersValue filters) = .ok again) ↔
      ∀ filter ∈ filters.filters, ¬IsStray filter := by
  have parts : (∃ again, parseFilters (filtersValue filters) = .ok again) ↔
      ∃ again, (filters.filters.mapM fun filter =>
        parseMember filter.property (memberBody filter)) = .ok again := by
    rw [parseFilters_filtersValue]
    constructor
    · rintro ⟨again, parsed⟩
      obtain ⟨others, found, -⟩ := map_eq_ok.mp parsed
      exact ⟨others, found⟩
    · rintro ⟨others, found⟩
      exact ⟨⟨others⟩, map_eq_ok.mpr ⟨others, found, rfl⟩⟩
  rw [parts, mapM_isOk_iff]
  exact forall₂_congr fun filter member => parseMember_isOk_iff (read filter member)

end WorkQuery.CompactForm
