/-
This file says what queries the bodies of requests describe. A draft is made into a query part by
part (`Draft.exists_parts_of_toQuery`), and a change replaces the parts of a query that it brings
and no others (`Change.applied_of_apply`). Whatever body is accepted, the query of a draft is
parsed, and a change turns a parsed query into a parsed one: its filters, its criteria and its
columns come from readers, and its name was read as a whole text.
-/

import WorkQuery.Proofs.BodyParts

namespace WorkQuery.Service

open CompactForm Json Schema

/-! ### Names -/

/-- A name is a whole text of the right length. -/
theorem exists_whole_of_queryName {value : Value} {name : String}
    (read : queryName value = .ok name) :
    (∃ written, whole written = .ok name) ∧
      1 ≤ Text.textLength name ∧ Text.textLength name ≤ 255 := by
  unfold queryName boundedText at read
  split at read
  · obtain ⟨written, isWhole, read⟩ := bind_eq_ok.mp read
    split at read
    · cases read
    · rename_i notShort
      split at read
      · cases read
      · rename_i notLong
        obtain rfl := Except.ok.inj read
        exact ⟨⟨_, isWhole⟩, not_lt.mp notShort, not_lt.mp notLong⟩
  · cases read

theorem holdsHalf_of_queryName {value : Value} {name : String}
    (read : queryName value = .ok name) : Text.holdsHalf name = false := by
  obtain ⟨⟨written, isWhole⟩, -⟩ := exists_whole_of_queryName read
  unfold whole at isWhole
  split at isWhole
  · cases isWhole
  · rename_i noHalf
    rw [← Except.ok.inj isWhole]
    exact Bool.eq_false_iff.mpr noHalf

/-- The name of a draft has been read as one. -/
theorem Draft.exists_queryName {value : Value} {draft : Draft} (read : ofValue value = .ok draft) :
    ∃ given, queryName given = .ok draft.name := by
  obtain ⟨fields, -, reads⟩ := exists_reads read
  obtain ⟨given, -, named⟩ := reads.name
  exact ⟨given, named⟩

/-- A draft has a whole name. -/
theorem Draft.holdsHalf_name {value : Value} {draft : Draft} (read : ofValue value = .ok draft) :
    Text.holdsHalf draft.name = false := by
  obtain ⟨given, named⟩ := exists_queryName read
  exact holdsHalf_of_queryName named

/-- A name that a change brings has been read as one. -/
theorem Change.exists_queryName {value : Value} {change : Change}
    (read : ofValue value = .ok change) :
    ∀ name ∈ change.name, ∃ given, queryName given = .ok name := by
  obtain ⟨fields, -, reads⟩ := exists_reads read
  exact reads.name.exists_of_mem

/-- A change brings no name but a whole one. -/
theorem Change.holdsHalf_name {value : Value} {change : Change}
    (read : ofValue value = .ok change) : ∀ name ∈ change.name, Text.holdsHalf name = false := by
  intro name given
  obtain ⟨written, named⟩ := exists_queryName read name given
  exact holdsHalf_of_queryName named

/-! ### Filters and sort orders -/

/-- The filters of a body are taken as they are given. -/
theorem eq_of_filterEntries {given entries : List Value} {start : Nat}
    (read : Schema.readItems filterEntry start given = .ok entries) : entries = given := by
  induction given generalizing start entries with
  | nil => exact (Except.ok.inj read).symm
  | cons entry given inductionHypothesis =>
    obtain ⟨_, others, first, rest, rfl⟩ := both_eq_ok read
    obtain ⟨found, readFirst, rfl⟩ := map_eq_ok.mp first
    have readFirst := within_eq_ok.mp readFirst
    unfold filterEntry at readFirst
    split at readFirst
    · rw [← Except.ok.inj readFirst, inductionHypothesis rest]
    · cases readFirst

theorem readItems_criteria (start : Nat) (criteria : List (List String)) :
    Schema.readItems (items text) start (criteria.map .texts) = .ok criteria := by
  induction criteria generalizing start with
  | nil => rfl
  | cons criterion criteria inductionHypothesis =>
    have first : items text (.texts criterion) = .ok criterion :=
      RawRow.readItems_texts 0 criterion
    rw [List.map_cons, Schema.readItems, first, inductionHypothesis]
    rfl

/-- A draft has the filters and the criteria that its body gives. -/
theorem Draft.filters_sortBy {fields : Fields} {draft : Draft} {filters : List Value}
    {criteria : List (List String)} (read : ofValue (.object fields) = .ok draft)
    (givenFilters : fields.get? "filters" = some (.list filters))
    (givenCriteria : fields.get? "sortBy" = some (.list (criteria.map .texts))) :
    draft.filters = filters ∧ draft.sortBy = criteria := by
  have reads := reads_of_ofValue read
  have readFilters := reads.filters
  have readCriteria := reads.sortBy
  rw [given?_of_get? givenFilters nofun] at readFilters
  rw [given?_of_get? givenCriteria nofun] at readCriteria
  have readCriteria : Schema.readItems (items text) 0 (criteria.map .texts) = .ok draft.sortBy :=
    readCriteria.sound_of_some
  rw [readItems_criteria] at readCriteria
  exact ⟨eq_of_filterEntries readFilters.sound_of_some, (Except.ok.inj readCriteria).symm⟩

/-! ### Parts that are replaced -/

/-- A part after a replacement: what the replacement is read as, or the part as it was. -/
inductive Replaced {Part Content : Type} (read : Part → Checked Content) (before : Content) :
    Option Part → Content → Prop
  | kept : Replaced read before none before
  | replaced {part : Part} {content : Content} (sound : read part = .ok content) :
    Replaced read before (some part) content

section Replaced

variable {Part Content : Type} {read : Part → Checked Content} {before after : Content}

theorem Replaced.eq_of_none {part : Option Part} (replaced : Replaced read before part after)
    (none : part = none) : after = before := by
  cases replaced with
  | kept => rfl
  | replaced => cases none

theorem Replaced.sound_of_some {part : Option Part} {given : Part}
    (replaced : Replaced read before part after) (some : part = some given) :
    read given = .ok after := by
  cases replaced with
  | kept => cases some
  | replaced sound => exact Option.some.inj some ▸ sound

theorem Replaced.eq_getD {before after : Part} {part : Option Part}
    (replaced : Replaced .ok before part after) : after = part.getD before := by
  cases replaced with
  | kept => rfl
  | replaced sound => exact (Except.ok.inj sound).symm

/-- What replaces a part is read of the part that is brought, or of the one that the old content
was read of. -/
theorem Replaced.sound_getD {fallback : Part} {part : Option Part}
    (replaced : Replaced read before part after) (initial : read fallback = .ok before) :
    read (part.getD fallback) = .ok after := by
  cases replaced with
  | kept => exact initial
  | replaced sound => exact sound

theorem Replaced.unique {part : Option Part} {other : Content}
    (replaced : Replaced read before part after) (again : Replaced read before part other) :
    after = other := by
  cases replaced with
  | kept => exact (again.eq_of_none rfl).symm
  | replaced sound => exact Except.ok.inj (sound.symm.trans (again.sound_of_some rfl))

/-- What holds of the old content holds of the new one if it does of what is read of the part. -/
theorem Replaced.holds (property : Content → Prop) {part : Option Part}
    (replaced : Replaced read before part after) (kept : property before)
    (made : ∀ given ∈ part, read given = .ok after → property after) : property after := by
  cases replaced with
  | kept => exact kept
  | replaced sound => exact made _ rfl sound

end Replaced

/-! ### Queries -/

theorem named_of_sortsOf {criteria : List (List String)} {order : SortOrder}
    (read : sortsOf criteria = .ok order) :
    ∀ criterion ∈ order.criteria, criterion.property ≠ "" := by
  obtain ⟨given, parsed, rfl⟩ := map_eq_ok.mp read
  unfold SortOrder.orStandard
  split
  · intro criterion member
    obtain rfl := List.mem_singleton.mp member
    decide
  · exact named_of_parseSorts parsed

theorem forall_columnsOf {names : List String} {set : ColumnSet}
    (read : columnsOf names = .ok set) :
    ∀ column ∈ set.columns, Column.ofName column.name = .ok column :=
  ColumnSet.forall_ofNames (mapError_eq_ok.mp read)

/-- The query of a draft, part by part. -/
theorem Draft.exists_parts_of_toQuery {draft : Draft} {query : Query}
    (read : draft.toQuery = .ok query) :
    ∃ filters sorts columns, parseFilters (.list draft.filters) = .ok filters ∧
      sortsOf draft.sortBy = .ok sorts ∧ Replaced columnsOf .standard draft.columns columns ∧
      query = Query.withDisplay
        { Query.plain draft.name with
          projectId := draft.projectId
          visibility := draft.visibility
          filters
          sorts
          columns
          grouping := ⟨draft.groupBy, false⟩
          highlighting := ⟨draft.highlightingMode, []⟩
          zoom := draft.zoom
          includeSubprojects := draft.includeSubprojects
          showHierarchies := draft.showHierarchies
          showSums := draft.showSums } draft.display := by
  obtain ⟨sorts, readSorts, read⟩ := bind_eq_ok.mp read
  obtain ⟨filters, readFilters, read⟩ := bind_eq_ok.mp read
  dsimp only at read
  split at read
  · rename_i names given
    obtain ⟨columns, readColumns, read⟩ := bind_eq_ok.mp read
    refine ⟨filters, sorts, columns, readFilters, readSorts, ?_, (Except.ok.inj read).symm⟩
    rw [given]
    exact .replaced readColumns
  · rename_i given
    refine ⟨filters, sorts, .standard, readFilters, readSorts, ?_, (Except.ok.inj read).symm⟩
    rw [given]
    exact .kept

/-- The query of a draft is parsed. -/
theorem Draft.isParsed {draft : Draft} {query : Query} (name : Text.holdsHalf draft.name = false)
    (read : draft.toQuery = .ok query) : query.IsParsed := by
  obtain ⟨filters, sorts, columns, readFilters, readSorts, isColumns, rfl⟩ :=
    exists_parts_of_toQuery read
  refine ⟨name, isRead_of_parseFilters readFilters, named_of_sortsOf readSorts, ?_⟩
  exact isColumns.holds
    (fun columns => ∀ column ∈ columns.columns, Column.ofName column.name = .ok column)
    ColumnSet.forall_standard fun _ _ read => forall_columnsOf read

/-! ### Changes -/

namespace Change

/-- The grouping by a property; an empty name means none. -/
def groupingOf (property : String) : Checked Grouping :=
  .ok (if property = "" then .none else .single property)

/-- What a change makes of a query: each part is replaced if the change brings it, the timeline is
turned on by a chart over time, and nothing else changes. -/
structure Applied (change : Change) (before after : Query) : Prop where
  name : Replaced .ok before.name change.name after.name
  visibility : Replaced .ok before.visibility change.visibility after.visibility
  display : Replaced .ok before.display change.display after.display
  filters : Replaced (fun entries => parseFilters (.list entries)) before.filters change.filters
    after.filters
  sorts : Replaced sortsOf before.sorts change.sortBy after.sorts
  columns : Replaced columnsOf before.columns change.columns after.columns
  grouping : Replaced groupingOf before.grouping change.groupBy after.grouping
  showSums : Replaced .ok before.showSums change.showSums after.showSums
  showTimeline : after.showTimeline = (before.showTimeline || change.display == some .gantt)
  rest : after = { before with
    name := after.name
    visibility := after.visibility
    display := after.display
    filters := after.filters
    sorts := after.sorts
    columns := after.columns
    grouping := after.grouping
    showSums := after.showSums
    showTimeline := after.showTimeline }

theorem exists_of_replace {Part Content : Type} {part : Option Part} {query changed : Query}
    {read : Part → Checked Content} {put : Query → Content → Query} (get : Query → Content)
    (same : put query (get query) = query)
    (found : replace part query (fun query value => (read value).map (put query)) = .ok changed) :
    ∃ content, Replaced read (get query) part content ∧ changed = put query content := by
  unfold replace at found
  split at found
  · obtain ⟨content, sound, rfl⟩ := map_eq_ok.mp found
    exact ⟨content, .replaced sound, rfl⟩
  · obtain rfl := Except.ok.inj found
    exact ⟨get query, .kept, same.symm⟩

/-- A display that is replaced may turn the timeline on. -/
theorem exists_display_of_replace {part : Option Representation} {query changed : Query}
    (found : replace part query (fun query display => .ok (query.withDisplay display)) =
      .ok changed) :
    ∃ display, Replaced .ok query.display part display ∧
      changed = { query with
        display, showTimeline := query.showTimeline || part == some .gantt } := by
  unfold replace at found
  split at found
  · rename_i display
    exact ⟨display, .replaced rfl, (Except.ok.inj found).symm⟩
  · refine ⟨query.display, .kept, ?_⟩
    rw [← Except.ok.inj found]
    exact congrArg (fun shown => { query with showTimeline := shown }) (Bool.or_false _).symm

theorem applied_of_apply {change : Change} {before after : Query}
    (applied : change.apply before = .ok after) : change.Applied before after := by
  obtain ⟨_, readVisibility, applied⟩ := bind_eq_ok.mp applied
  obtain ⟨_, readDisplay, applied⟩ := bind_eq_ok.mp applied
  obtain ⟨_, readFilters, applied⟩ := bind_eq_ok.mp applied
  obtain ⟨_, readSorts, applied⟩ := bind_eq_ok.mp applied
  obtain ⟨_, readColumns, applied⟩ := bind_eq_ok.mp applied
  obtain ⟨_, readGrouping, applied⟩ := bind_eq_ok.mp applied
  obtain ⟨_, readName, readShowSums⟩ := bind_eq_ok.mp applied
  obtain ⟨visibility, isVisibility, rfl⟩ :=
    @exists_of_replace _ _ _ _ _ .ok Query.withVisibility Query.visibility rfl readVisibility
  obtain ⟨display, isDisplay, rfl⟩ := exists_display_of_replace readDisplay
  obtain ⟨filters, isFilters, rfl⟩ := exists_of_replace Query.filters rfl readFilters
  obtain ⟨sorts, isSorts, rfl⟩ := exists_of_replace Query.sorts rfl readSorts
  obtain ⟨columns, isColumns, rfl⟩ := exists_of_replace Query.columns rfl readColumns
  obtain ⟨grouping, isGrouping, rfl⟩ :=
    @exists_of_replace _ _ _ _ _ groupingOf Query.withGrouping Query.grouping rfl readGrouping
  obtain ⟨name, isName, rfl⟩ :=
    @exists_of_replace _ _ _ _ _ .ok (fun query name => { query with name }) Query.name rfl readName
  obtain ⟨showSums, isShowSums, rfl⟩ :=
    @exists_of_replace _ _ _ _ _ .ok (fun query showSums => { query with showSums })
      Query.showSums rfl readShowSums
  exact {
    name := isName
    visibility := isVisibility
    display := isDisplay
    filters := isFilters
    sorts := isSorts
    columns := isColumns
    grouping := isGrouping
    showSums := isShowSums
    showTimeline := rfl
    rest := rfl }

/-- A change keeps a query parsed: each part is replaced by one that was read. -/
theorem Applied.isParsed {change : Change} {before after : Query}
    (applied : change.Applied before after)
    (whole : ∀ name ∈ change.name, Text.holdsHalf name = false) (parsed : before.IsParsed) :
    after.IsParsed where
  name := applied.name.holds (fun name => Text.holdsHalf name = false) parsed.name
    fun name given same => Except.ok.inj same ▸ whole name given
  filters := applied.filters.holds (fun filters => ∀ filter ∈ filters.filters, IsRead filter)
    parsed.filters fun _ _ read => isRead_of_parseFilters read
  sorts := applied.sorts.holds
    (fun sorts => ∀ criterion ∈ sorts.criteria, criterion.property ≠ "") parsed.sorts
    fun _ _ read => named_of_sortsOf read
  columns := applied.columns.holds
    (fun columns => ∀ column ∈ columns.columns, Column.ofName column.name = .ok column)
    parsed.columns fun _ _ read => forall_columnsOf read

end Change

end WorkQuery.Service
