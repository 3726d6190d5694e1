/-
This file takes the bodies apart with which queries are saved and changed. What a body gives for a
name is one value or nothing (`given?`), and both readers read the same of it: a draft falls back
where nothing is given (`Draft.exists_reads`), and a change has no such part
(`Change.exists_reads`).
-/

import WorkQuery.Proofs.ColumnForm
import WorkQuery.Service.Draft

namespace WorkQuery.Service

open CompactForm Json Schema

/-! ### What a body gives -/

/-- The second name of a member, if it has one. -/
def secondName? : String → Option String
  | "sortBy" => some "sort_by"
  | "groupBy" => some "group_by"
  | _ => none

/-- The member of a body under a name, or else under its second name. -/
def memberUnder? (fields : Fields) (name : String) : Option Value :=
  (fields.get? name).or ((secondName? name).bind fields.get?)

/-- What a body gives for a name. Null gives nothing, also to a name whose second name has a
value. -/
def given? (fields : Fields) (name : String) : Option Value :=
  (memberUnder? fields name).filter fun value => value != .null

/-- What is read of what is given: something of something, and nothing of nothing. -/
inductive Given {Part : Type} (read : Value → Checked Part) : Option Value → Option Part → Prop
  | nothing : Given read none none
  | part {value : Value} {part : Part} (sound : read value = .ok part) :
    Given read (some value) (some part)

/-- What is read of what is given, with a fallback for nothing. -/
def GivenOr {Part : Type} (read : Value → Checked Part) (given : Option Value)
    (fallback part : Part) : Prop :=
  ∃ found, Given read given found ∧ part = found.getD fallback

section Parts

variable {Part : Type} {read : Value → Checked Part} {fields : Fields}

theorem Given.unique {given : Option Value} {left right : Option Part}
    (first : Given read given left) (second : Given read given right) : left = right := by
  cases first with
  | nothing =>
    cases second
    rfl
  | part sound =>
    cases second with
    | part sound' => exact congrArg some (Except.ok.inj (sound.symm.trans sound'))

theorem Given.eq_none {given : Option Value} {part : Option Part} (reads : Given read given part)
    (nothing : given = none) : part = none :=
  (nothing ▸ reads).unique .nothing

theorem Given.exists_of_some {value : Value} {part : Option Part}
    (reads : Given read (some value) part) :
    ∃ found, part = some found ∧ read value = .ok found := by
  cases reads with
  | part sound => exact ⟨_, rfl, sound⟩

theorem Given.exists_of_mem {given : Option Value} {part : Option Part}
    (reads : Given read given part) : ∀ found ∈ part, ∃ value, read value = .ok found := by
  cases reads with
  | nothing => exact fun _ member => nomatch member
  | part sound => exact fun found member => ⟨_, Option.some.inj member ▸ sound⟩

theorem Given.eq_of_eq {given other : Option Value} {first second : Option Part}
    (same : given = other) (reads : Given read given first) (others : Given read other second) :
    first = second :=
  (same ▸ reads).unique others

theorem GivenOr.sound_of_some {value : Value} {fallback part : Part}
    (reads : GivenOr read (some value) fallback part) : read value = .ok part := by
  obtain ⟨found, given, rfl⟩ := reads
  obtain ⟨found, rfl, sound⟩ := given.exists_of_some
  exact sound

theorem GivenOr.eq_getD {given other : Option Value} {fallback part : Part}
    {brought : Option Part} (same : given = other) (drafts : GivenOr read given fallback part)
    (reads : Given read other brought) : part = brought.getD fallback := by
  obtain ⟨found, drafted, rfl⟩ := drafts
  rw [drafted.eq_of_eq same reads]

theorem GivenOr.eq_fallback {given : Option Value} {fallback part : Part}
    (drafts : GivenOr read given fallback part) (nothing : given = none) : part = fallback :=
  drafts.eq_getD nothing .nothing

/-- What a member that may be left out is read as. -/
def ReadsMember (fields : Fields) (name : String) (fallback : Part) (read : Value → Checked Part)
    (part : Part) : Prop :=
  (memberUnder? fields name = none ∧ part = fallback) ∨
    ∃ value, memberUnder? fields name = some value ∧ read value = .ok part

theorem readsMember_of_optional {name : String} {fallback part : Part}
    (single : secondName? name = none) (found : optional fields name fallback read = .ok part) :
    ReadsMember fields name fallback read part := by
  rw [ReadsMember, memberUnder?, single, Option.bind_none, Option.or_none]
  exact optional_eq_ok found

theorem readsMember_of_optionalUnder {name otherName : String} {fallback part : Part}
    (second : secondName? name = some otherName)
    (found : optionalUnder fields name otherName fallback read = .ok part) :
    ReadsMember fields name fallback read part := by
  rw [ReadsMember, memberUnder?, second, Option.bind_some]
  unfold optionalUnder at found
  cases first : fields.get? name with
  | none =>
    rw [first, if_neg (by decide)] at found
    rw [Option.none_or]
    exact optional_eq_ok found
  | some value =>
    rw [first, if_pos (by rfl)] at found
    rw [Option.some_or]
    rcases optional_eq_ok found with ⟨missing, -⟩ | ⟨value', same, sound⟩
    · rw [first] at missing
      cases missing
    · exact .inr ⟨value', first.symm.trans same, sound⟩

theorem given?_of_none {name : String} (missing : memberUnder? fields name = none) :
    given? fields name = none := by
  rw [given?, missing, Option.filter_none]

theorem given?_of_null {name : String} (present : memberUnder? fields name = some .null) :
    given? fields name = none := by
  rw [given?, present, Option.filter_some_neg]
  decide

theorem given?_of_some {name : String} {value : Value}
    (present : memberUnder? fields name = some value) (notNull : value ≠ .null) :
    given? fields name = some value := by
  rw [given?, present, Option.filter_some_pos]
  exact bne_iff_ne.mpr notNull

theorem given?_of_get? {name : String} {value : Value} (present : fields.get? name = some value)
    (notNull : value ≠ .null) : given? fields name = some value := by
  refine given?_of_some ?_ notNull
  rw [memberUnder?, present, Option.some_or]

/-- A part that may be null is read of what the body gives. -/
theorem given_of_nullable {name : String} {part : Option Part}
    (reads : ReadsMember fields name none (nullable read) part) :
    Given read (given? fields name) part := by
  rcases reads with ⟨missing, rfl⟩ | ⟨value, present, sound⟩
  · rw [given?_of_none missing]
    exact .nothing
  · by_cases isNull : value = .null
    · obtain rfl := isNull
      rw [given?_of_null present, ← Except.ok.inj sound]
      exact .nothing
    · unfold nullable at sound
      split at sound
      · contradiction
      · obtain ⟨content, readContent, rfl⟩ := map_eq_ok.mp sound
        rw [given?_of_some present isNull]
        exact .part readContent

/-- A part that may not be null is read of what the body gives, or falls back. -/
theorem givenOr_of_reads {name : String} {fallback part : Part} {issue : Failure}
    (refusesNull : read .null = .error issue)
    (reads : ReadsMember fields name fallback read part) :
    GivenOr read (given? fields name) fallback part := by
  rcases reads with ⟨missing, rfl⟩ | ⟨value, present, sound⟩
  · rw [given?_of_none missing]
    exact ⟨none, .nothing, rfl⟩
  · have notNull : value ≠ .null := by
      rintro rfl
      rw [refusesNull] at sound
      cases sound
    rw [given?_of_some present notNull]
    exact ⟨some part, .part sound, rfl⟩

end Parts

/-! ### Bodies -/

/-- A change brings what its body gives. -/
structure Change.Reads (fields : Fields) (change : Change) : Prop where
  name : Given queryName (given? fields "name") change.name
  visibility : Given (memberOf Visibility.ofName?) (given? fields "visibility") change.visibility
  display : Given (memberOf Representation.ofName?) (given? fields "display") change.display
  filters : Given (items filterEntry) (given? fields "filters") change.filters
  sortBy : Given (items (items text)) (given? fields "sortBy") change.sortBy
  columns : Given (items text) (given? fields "columns") change.columns
  groupBy : Given text (given? fields "groupBy") change.groupBy
  showSums : Given truth (given? fields "show_sums") change.showSums

theorem eq_object_of_bodyRecord {value : Value} {fields : Fields}
    (read : bodyRecord value = .ok fields) : value = .object fields := by
  cases value with
  | object fields => exact congrArg Value.object (Except.ok.inj read)
  | _ => cases read

theorem Change.exists_reads {value : Value} {change : Change}
    (read : ofValue value = .ok change) :
    ∃ fields, value = .object fields ∧ change.Reads fields := by
  obtain ⟨fields, isRecord, parts⟩ := bind_eq_ok.mp read
  obtain rfl := eq_object_of_bodyRecord isRecord
  clear read isRecord
  obtain ⟨_, showSums, upToGroupBy, readShowSums, rfl⟩ := both_eq_ok parts
  obtain ⟨_, groupBy, upToColumns, readGroupBy, rfl⟩ := both_eq_ok upToGroupBy
  obtain ⟨_, columns, upToSortBy, readColumns, rfl⟩ := both_eq_ok upToColumns
  obtain ⟨_, sortBy, upToFilters, readSortBy, rfl⟩ := both_eq_ok upToSortBy
  obtain ⟨_, filters, upToDisplay, readFilters, rfl⟩ := both_eq_ok upToFilters
  obtain ⟨_, display, upToVisibility, readDisplay, rfl⟩ := both_eq_ok upToDisplay
  obtain ⟨_, visibility, upToName, readVisibility, rfl⟩ := both_eq_ok upToVisibility
  obtain ⟨name, readName, rfl⟩ := map_eq_ok.mp upToName
  exact ⟨fields, rfl, {
    name := given_of_nullable (readsMember_of_optional rfl readName)
    visibility := given_of_nullable (readsMember_of_optional rfl readVisibility)
    display := given_of_nullable (readsMember_of_optional rfl readDisplay)
    filters := given_of_nullable (readsMember_of_optional rfl readFilters)
    sortBy := given_of_nullable (readsMember_of_optionalUnder rfl readSortBy)
    columns := given_of_nullable (readsMember_of_optional rfl readColumns)
    groupBy := given_of_nullable (readsMember_of_optionalUnder rfl readGroupBy)
    showSums := given_of_nullable (readsMember_of_optional rfl readShowSums) }⟩

theorem Change.reads_of_ofValue {fields : Fields} {change : Change}
    (read : ofValue (.object fields) = .ok change) : change.Reads fields := by
  obtain ⟨_, same, reads⟩ := exists_reads read
  exact Value.object.inj same ▸ reads

/-- A draft has what its body gives, and falls back for the rest. -/
structure Draft.Reads (fields : Fields) (draft : Draft) : Prop where
  name : ∃ value, fields.get? "name" = some value ∧ queryName value = .ok draft.name
  projectId : Given integer (given? fields "project_id") draft.projectId
  visibility : GivenOr (memberOf Visibility.ofName?) (given? fields "visibility") .own
    draft.visibility
  display : GivenOr (memberOf Representation.ofName?) (given? fields "display") .list draft.display
  filters : GivenOr (items filterEntry) (given? fields "filters") [] draft.filters
  sortBy : GivenOr (items (items text)) (given? fields "sortBy") [] draft.sortBy
  columns : Given (items text) (given? fields "columns") draft.columns
  groupBy : Given text (given? fields "groupBy") draft.groupBy
  highlightingMode : GivenOr (memberOf HighlightMode.ofName?) (given? fields "highlighting_mode")
    .none draft.highlightingMode
  zoom : GivenOr (memberOf ZoomLevel.ofName?) (given? fields "timeline_zoom_level") .weeks
    draft.zoom
  includeSubprojects : GivenOr truth (given? fields "include_subprojects") true
    draft.includeSubprojects
  showHierarchies : GivenOr truth (given? fields "show_hierarchies") true draft.showHierarchies
  showSums : GivenOr truth (given? fields "show_sums") false draft.showSums

theorem Draft.exists_reads {value : Value} {draft : Draft} (read : ofValue value = .ok draft) :
    ∃ fields, value = .object fields ∧ draft.Reads fields := by
  obtain ⟨fields, isRecord, parts⟩ := bind_eq_ok.mp read
  obtain rfl := eq_object_of_bodyRecord isRecord
  clear read isRecord
  obtain ⟨_, showSums, upToHierarchies, readShowSums, rfl⟩ := both_eq_ok parts
  obtain ⟨_, showHierarchies, upToSubprojects, readShowHierarchies, rfl⟩ :=
    both_eq_ok upToHierarchies
  obtain ⟨_, includeSubprojects, upToZoom, readIncludeSubprojects, rfl⟩ :=
    both_eq_ok upToSubprojects
  obtain ⟨_, zoom, upToMode, readZoom, rfl⟩ := both_eq_ok upToZoom
  obtain ⟨_, mode, upToGroupBy, readMode, rfl⟩ := both_eq_ok upToMode
  obtain ⟨_, groupBy, upToColumns, readGroupBy, rfl⟩ := both_eq_ok upToGroupBy
  obtain ⟨_, columns, upToSortBy, readColumns, rfl⟩ := both_eq_ok upToColumns
  obtain ⟨_, sortBy, upToFilters, readSortBy, rfl⟩ := both_eq_ok upToSortBy
  obtain ⟨_, filters, upToDisplay, readFilters, rfl⟩ := both_eq_ok upToFilters
  obtain ⟨_, display, upToVisibility, readDisplay, rfl⟩ := both_eq_ok upToDisplay
  obtain ⟨_, visibility, upToProject, readVisibility, rfl⟩ := both_eq_ok upToVisibility
  obtain ⟨_, projectId, upToName, readProjectId, rfl⟩ := both_eq_ok upToProject
  obtain ⟨name, readName, rfl⟩ := map_eq_ok.mp upToName
  exact ⟨fields, rfl, {
    name := required_eq_ok readName
    projectId := given_of_nullable (readsMember_of_optional rfl readProjectId)
    visibility := givenOr_of_reads rfl (readsMember_of_optional rfl readVisibility)
    display := givenOr_of_reads rfl (readsMember_of_optional rfl readDisplay)
    filters := givenOr_of_reads rfl (readsMember_of_optional rfl readFilters)
    sortBy := givenOr_of_reads rfl (readsMember_of_optionalUnder rfl readSortBy)
    columns := given_of_nullable (readsMember_of_optional rfl readColumns)
    groupBy := given_of_nullable (readsMember_of_optionalUnder rfl readGroupBy)
    highlightingMode := givenOr_of_reads rfl (readsMember_of_optional rfl readMode)
    zoom := givenOr_of_reads rfl (readsMember_of_optional rfl readZoom)
    includeSubprojects := givenOr_of_reads rfl (readsMember_of_optional rfl readIncludeSubprojects)
    showHierarchies := givenOr_of_reads rfl (readsMember_of_optional rfl readShowHierarchies)
    showSums := givenOr_of_reads rfl (readsMember_of_optional rfl readShowSums) }⟩

theorem Draft.reads_of_ofValue {fields : Fields} {draft : Draft}
    (read : ofValue (.object fields) = .ok draft) : draft.Reads fields := by
  obtain ⟨_, same, reads⟩ := exists_reads read
  exact Value.object.inj same ▸ reads

end WorkQuery.Service
