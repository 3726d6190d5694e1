/-
This file proves that reading filters off the compact form loses and mistypes nothing. Each member
of each object becomes one filter, in order; the filter keeps as many values as were given to it,
nulls aside; and its value is of a kind that the property and the operator prescribe
(`parseFilters_prescribed`). Both are read off the branches of `HoldsWords`, but for the number of
words: where a single word is expected, the reader refuses several before it looks at the class.
-/

import WorkQuery.Proofs.CompactRoundTrip

namespace WorkQuery.CompactForm

open Calendar Json Number Schema Text

/-! ### Kinds -/

/-- Where a value of a kind may stand. Ranges go by the operator alone and numbers may; every other
kind goes by the property. -/
def Prescribes (property : String) (operator : Operator) : FilterValue → Prop
  | .dates .. => operator = .fixed .between
  | .currentUser | .id _ | .ids _ => PropertyClass.of property = .identifier
  | .truth _ => property = "status_is_closed"
  | .number _ => PropertyClass.of property = .number ∨ operator.isRelative = true
  | .date _ => PropertyClass.of property = .day
  | .text _ | .texts _ => PropertyClass.of property = .free
  | .absent => operator ≠ .fixed .between ∧ operator.isRelative = false

theorem eq_of_isTruth {property : String} (isClass : PropertyClass.of property = .truth) :
    property = "status_is_closed" := by
  unfold PropertyClass.of at isClass
  split_ifs at isClass with _ _ _ member
  exact List.mem_singleton.mp (List.contains_iff_mem.mp member)

/-- The class that decides is that of the property, or numbers under a relative operator. -/
theorem of_effectiveClass {property : String} {operator : Operator} {effective : PropertyClass}
    (isClass : effectiveClass property operator = effective) :
    PropertyClass.of property = effective ∨
      effective = .number ∧ operator.isRelative = true := by
  unfold effectiveClass at isClass
  split at isClass
  · exact .inl (isClass ▸ ‹_›)
  · exact .inl (isClass ▸ ‹_›)
  · split at isClass
    · rename_i relative
      exact .inr ⟨isClass.symm, relative⟩
    · exact .inl isClass

theorem prescribes_ofIds {property : String} (operator : Operator)
    (isClass : PropertyClass.of property = .identifier) (ids : List Int) :
    Prescribes property operator (.ofIds ids) := by
  unfold FilterValue.ofIds
  split <;> exact isClass

theorem prescribes_ofTexts {property : String} (operator : Operator)
    (isClass : PropertyClass.of property = .free) (words : List String) :
    Prescribes property operator (.ofTexts words) := by
  unfold FilterValue.ofTexts
  split <;> exact isClass

theorem isRelative_eq_false_of_days? {operator : Operator} (noDays : operator.days? = none) :
    operator.isRelative = false := by
  cases operator with
  | fixed kind => rfl
  | relative kind days => cases noDays

/-- What words are read as is prescribed, provided that only a property with identifiers is compared
with the requester. -/
theorem HoldsWords.prescribes {property : String} {operator : Operator} {words : List String}
    {value : FilterValue} (holds : HoldsWords property operator words value)
    (noRange : operator ≠ .fixed .between)
    (current : operator = .fixed .currentUserEquals → PropertyClass.of property = .identifier) :
    Prescribes property operator value := by
  cases holds with
  | absent noDays => exact ⟨noRange, isRelative_eq_false_of_days? noDays⟩
  | count counts => exact .inr (isRelative_of_days? counts)
  | placeholder personal => exact personal.elim id current
  | identifiers isClass => exact prescribes_ofIds operator isClass _
  | texts isClass => exact prescribes_ofTexts operator (effectiveClass_eq_free isClass).1 _
  | truth isClass => exact eq_of_isTruth ((of_effectiveClass isClass).resolve_right nofun)
  | day isClass => exact (of_effectiveClass isClass).resolve_right nofun
  | number isClass => exact (of_effectiveClass isClass).imp_right And.right

/-- The value of a filter that was read is prescribed. -/
theorem IsRead.prescribes {filter : Filter} (read : IsRead filter) :
    Prescribes filter.property filter.operator filter.value := by
  obtain ⟨property, operator, value⟩ := filter
  obtain ⟨-, current, -, holds⟩ := read
  cases holds with
  | range isRange => exact isRange
  | words noRange holds => exact holds.prescribes noRange fun asks => (current asks).1

/-! ### Numbers of values -/

/-- How many words are written of a value that was read of some: one of a day count that stands in
for a missing value, and otherwise as many as there were. -/
def writtenCount (operator : Operator) (count : Nat) : Nat :=
  if operator.isRelative ∧ count = 0 then 1 else count

theorem writtenCount_of_pos (operator : Operator) {count : Nat} (positive : 0 < count) :
    writtenCount operator count = count :=
  if_neg fun missing => absurd missing.2 positive.ne'

/-- Where a single word is expected, several are refused. -/
theorem length_le_one_of_typedWords {property : String} {operator : Operator} {words : List String}
    {value : FilterValue} (notIdentifier : effectiveClass property operator ≠ .identifier)
    (notFree : effectiveClass property operator ≠ .free)
    (read : typedWords property operator words = .ok value) : words.length ≤ 1 := by
  have scalar : (PropertyClass.of property ≠ .identifier ∧ PropertyClass.of property ≠ .free) ∨
      operator.isRelative = true := by
    cases relative : operator.isRelative with
    | true => exact .inr rfl
    | false =>
      refine .inl ⟨fun isClass => notIdentifier (effectiveClass_of_identifier.mpr isClass), ?_⟩
      intro isClass
      refine notFree ?_
      unfold effectiveClass
      rw [isClass, relative]
      rfl
  by_contra several
  rw [not_le] at several
  -- Several words are refused before the class is looked at, by the placeholder or by their number.
  unfold typedWords at read
  dsimp only at read
  split at read
  · rename_i empty
    rw [List.isEmpty_iff.mp empty] at several
    exact absurd several (by decide)
  · split at read
    · cases read
    · rw [if_pos ⟨scalar, several⟩] at read
      cases read

/-- As many words are written of a value as it was read of. -/
theorem length_valueTexts_of_typedWords {property : String} {operator : Operator}
    {words : List String} {value : FilterValue}
    (read : typedWords property operator words = .ok value) :
    (valueTexts value).length = writtenCount operator words.length := by
  have single (nonempty : words ≠ [])
      (notIdentifier : effectiveClass property operator ≠ .identifier)
      (notFree : effectiveClass property operator ≠ .free) :
      1 = writtenCount operator words.length := by
    have atMost := length_le_one_of_typedWords notIdentifier notFree read
    have atLeast := List.length_pos_of_ne_nil nonempty
    rw [writtenCount_of_pos operator atLeast]
    omega
  cases holds_of_typedWords read with
  | absent noDays =>
    rw [writtenCount, isRelative_eq_false_of_days? noDays]
    rfl
  | count counts =>
    rw [writtenCount, isRelative_of_days? counts]
    rfl
  | placeholder => exact (writtenCount_of_pos operator Nat.one_pos).symm
  | @identifiers words ids _ nonempty _ readIds =>
    rw [valueTexts_ofIds, List.length_map, (mapM_readInteger readIds).1,
      writtenCount_of_pos operator (List.length_pos_of_ne_nil nonempty)]
  | texts _ nonempty =>
    rw [valueTexts_ofTexts, writtenCount_of_pos operator (List.length_pos_of_ne_nil nonempty)]
  | truth isClass nonempty | day isClass nonempty | number isClass nonempty =>
    exact single nonempty (by rw [isClass]; decide) (by rw [isClass]; decide)

/-- How many values are given: nulls do not count. -/
def presentCount (values : List Value) : Nat :=
  values.countP fun value => value != .null

theorem length_wordsOf (values : List Value) : (wordsOf values).length = presentCount values := by
  rw [wordsOf, List.length_map, presentCount, List.countP_eq_length_filter]
  rfl

/-- As many words are written of a value as it was given values. -/
theorem length_valueTexts_of_typedValue {property : String} {operator : Operator}
    {values : List Value} {value : FilterValue}
    (read : typedValue property operator values = .ok value) :
    (valueTexts value).length = writtenCount operator (presentCount values) := by
  have read := (typedValue_eq_ok_iff.mp read).2
  unfold valueOfWords at read
  rw [← length_wordsOf]
  split at read
  · split at read
    · rename_i given
      obtain ⟨first, -, read⟩ := bind_eq_ok.mp read
      obtain ⟨last, -, read⟩ := bind_eq_ok.mp read
      obtain rfl := Except.ok.inj read
      rw [given]
      exact (writtenCount_of_pos operator Nat.two_pos).symm
    · cases read
  · exact length_valueTexts_of_typedWords read

/-! ### Members and filters -/

/-- What a filter says of the member that it was read of: it is on the property of the member, keeps
each of its values, and holds a value that is prescribed; a range if and only if the operator is the
one of ranges. -/
structure IsReadingOf (member : String × Value) (filter : Filter) : Prop where
  property : filter.property = member.1
  complete : ∀ values, member.2.member "values" = .list values →
    (valueTexts filter.value).length = writtenCount filter.operator (presentCount values)
  prescribed : Prescribes filter.property filter.operator filter.value
  range : (∃ first last, filter.value = .dates first last) ↔ filter.operator = .fixed .between

theorem rawValues_of_list {body : Value} {values : List Value}
    (given : body.member "values" = .list values) : rawValues body = values := by
  rw [rawValues, given]

theorem isReadingOf_of_parseMember {member : String × Value} {filter : Filter}
    (parsed : parseMember member.1 member.2 = .ok filter) : IsReadingOf member filter := by
  have read := isRead_of_parseMember parsed
  obtain ⟨property, operator, value⟩ := filter
  obtain ⟨same, -, typed⟩ := parseMember_eq_ok parsed
  refine ⟨same, fun values given => ?_, read.prescribes, fun range => ?_, fun isRange => ?_⟩
  · rw [rawValues_of_list given] at typed
    exact length_valueTexts_of_typedValue typed
  · obtain ⟨first, last, rfl⟩ := range
    exact read.prescribes
  · cases read.holds with
    | range _ first last => exact ⟨first, last, rfl⟩
    | words noRange => contradiction

/-- Whatever is read consists of objects. -/
theorem exists_objects {items : List Value} {filters : List (List Filter)}
    (parsed : items.mapM parseEntry = .ok filters) :
    ∃ objects : List Fields, items = objects.map .object := by
  have related := forall₂_mapM parsed
  clear parsed
  induction related with
  | nil => exact ⟨[], rfl⟩
  | cons first _ inductionHypothesis =>
    obtain ⟨objects, same⟩ := inductionHypothesis
    unfold parseEntry at first
    split at first
    · rename_i fields
      exact ⟨fields :: objects, congrArg _ same⟩
    · cases first

/-- Whatever filters are read of a compact form, it consists of objects, the members of which are
read one by one and in order: each filter is on the property of its member, keeps as many values as
are given and not null, and holds a value of the kind that its property and operator prescribe. -/
theorem parseFilters_prescribed {raw : Value} {filters : FilterSet}
    (parsed : parseFilters raw = .ok filters) :
    ∃ objects : List Fields, entries "filters" raw = .ok (objects.map .object) ∧
      List.Forall₂ IsReadingOf objects.flatten filters.filters := by
  have related := forall₂_givenMembers parsed
  obtain ⟨items, given, read⟩ := bind_eq_ok.mp parsed
  obtain ⟨found, readItems, -⟩ := bind_eq_ok.mp read
  obtain ⟨objects, rfl⟩ := exists_objects readItems
  have members : givenMembers raw = objects.flatten := by
    rw [givenMembers, given]
    change (objects.map Value.object).flatMap _ = _
    rw [List.flatMap_map]
    exact List.flatMap_id
  rw [members] at related
  exact ⟨objects, given, related.imp fun _ _ => isReadingOf_of_parseMember⟩

/-- An object with two members: identifiers with a null among them, and a day count that is given no
value but a null. -/
def nullsAmongValues : Fields :=
  [("status_id", .object [("operator", .text "="), ("values", .list [.text "1", .null, .int 2])]),
   ("start_date", .object [("operator", .text "t-5"), ("values", .list [.null])])]

theorem parseFilters_prescribed_nulls :
    ∃ filters, parseFilters (.list [.object nullsAmongValues]) = .ok filters ∧
      List.Forall₂ IsReadingOf nullsAmongValues filters.filters := by
  have parsed : parseFilters (.list [.object nullsAmongValues]) =
      .ok ⟨[⟨"status_id", .fixed .equals, .ids [1, 2]⟩,
        ⟨"start_date", .relative .daysAgo 5, .number (.finite false 5629499534213120 (-50))⟩]⟩ :=
    eq_ok_of_toOption (by decide +kernel)
  obtain ⟨objects, given, related⟩ := parseFilters_prescribed parsed
  have same : [nullsAmongValues].map Value.object = objects.map .object := Except.ok.inj given
  obtain rfl := List.map_injective_iff.mpr (fun _ _ => Value.object.inj) same
  exact ⟨_, parsed, related⟩

end WorkQuery.CompactForm
