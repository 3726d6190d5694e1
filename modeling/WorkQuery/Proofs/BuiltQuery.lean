/-
This file proves that a query keeps its meaning when it is saved, if it is built by the edits that
bring their own filters. A stored filter is typed again by the name of its property, and may come
back with another value: an empty list of identifiers as no value at all, the requester under an
unknown property as a text. What matters is that it comes back with the same condition
(`Filter.KeepsCondition`). Edits that bring such filters, sort by properties that have names and
keep to columns that are found under theirs are lasting (`Edit.IsLasting`); a builder that goes
through lasting edits is lasting, and so is what it builds (`keepsMeaning_of_lasting`).
-/

import WorkQuery.Proofs.StoredCondition
import WorkQuery.Proofs.StoredQuery
import WorkQuery.Proofs.ValidatedQuery
import WorkQuery.Query.Preset

namespace WorkQuery

open CompactForm Json Number Schema

/-! ### Filters -/

namespace Filter

/-- Whether the filter is read back, once it is written, as one with the same condition for
everyone. -/
def KeepsCondition (filter : Filter) : Prop :=
  ∃ again, parseMember filter.property (memberBody filter) = .ok again ∧
    ∀ user, Sql.condition? user again = Sql.condition? user filter

/-- Whether the identifiers of the filter have no more digits than an integer in a text may. Others
cannot be written. -/
def HasShortIds (filter : Filter) : Prop :=
  ∀ id ∈ filter.value.toIds, id.natAbs < 10 ^ digitLimit

theorem keepsCondition_of_isRead {filter : Filter} (read : IsRead filter)
    (ordinary : ¬KeepsCount filter) : filter.KeepsCondition := by
  obtain ⟨again, parsed, -⟩ := parseMember_again read ordinary
  exact ⟨again, parsed, Sql.condition?_stored read parsed⟩

theorem keepsCondition_of_parseMember {filter : Filter}
    (parsed : parseMember filter.property (memberBody filter) = .ok filter) :
    filter.KeepsCondition :=
  ⟨filter, parsed, fun _ => rfl⟩

/-- No identifiers at all are read back as no value. Neither has a condition. -/
theorem keepsCondition_noIds (property : String) : (equals property (.ids [])).KeepsCondition := by
  have noRange : Operator.fixed .equals ≠ .fixed .between := nofun
  have read : IsRead (equals property .absent) :=
    ⟨nofun, nofun, nofun, .words noRange (.absent rfl)⟩
  have body := parseMember_memberBody read
  refine ⟨equals property .absent, body, fun user => ?_⟩
  have invalid : (equals property .absent).isValid = false := by
    rw [isValid, Bool.and_eq_false_iff]
    exact .inr rfl
  have unsuited (column : Sql.Reference) :
      Sql.operatorCondition? column (.fixed .equals) (.ids []) user = none := rfl
  rw [Sql.condition?_eq, Sql.condition?_eq, invalid, if_neg Bool.false_ne_true]
  simp only [equals, unsuited, Option.bind_fun_none, ite_self]

theorem keepsCondition_ofIds {property : String} {ids : List Int}
    (isClass : PropertyClass.of property = .identifier)
    (short : (equals property (.ofIds ids)).HasShortIds) :
    (equals property (.ofIds ids)).KeepsCondition := by
  cases ids with
  | nil => exact keepsCondition_noIds property
  | cons first rest =>
    have noRange : Operator.fixed .equals ≠ .fixed .between := nofun
    rw [HasShortIds, equals, FilterValue.toIds_ofIds] at short
    have read : IsRead (equals property (.ofIds (first :: rest))) :=
      ⟨nofun, nofun, fun _ => ofIds_ne_currentUser _,
        .words noRange (.identifiers isClass (List.cons_ne_nil _ _) nofun
          (mapM_readInteger_integerText short))⟩
    exact keepsCondition_of_isRead read fun keeps => Bool.false_ne_true keeps.2.1

theorem keepsCondition_contains {property : String} (isClass : PropertyClass.of property = .free)
    (text : String) : (contains property text).KeepsCondition := by
  have impersonal : ¬([text].contains placeholder = true ∧
      IsPersonal property (.fixed .contains)) := by
    rintro ⟨-, isIdentifier | isCurrent⟩
    · rw [isClass] at isIdentifier
      cases isIdentifier
    · cases isCurrent
  have effective : effectiveClass property (.fixed .contains) = .free := by
    rw [effectiveClass, isClass]
    rfl
  have noRange : Operator.fixed .contains ≠ .fixed .between := nofun
  have read : IsRead (contains property text) :=
    ⟨nofun, nofun, nofun,
      .words noRange (.texts effective (List.cons_ne_nil _ _) impersonal)⟩
  exact keepsCondition_of_isRead read fun keeps => Bool.false_ne_true keeps.2.1

end Filter

/-- Written filters are read back one by one. -/
theorem exists_again_of_keepsCondition {filters : List Filter}
    (keep : ∀ filter ∈ filters, filter.KeepsCondition) :
    ∃ again : List Filter,
      filters.mapM (fun filter => parseMember filter.property (memberBody filter)) = .ok again ∧
        ∀ user, again.map (Sql.condition? user) = filters.map (Sql.condition? user) := by
  induction filters with
  | nil => exact ⟨[], rfl, fun _ => rfl⟩
  | cons filter filters inductionHypothesis =>
    rw [List.forall_mem_cons] at keep
    obtain ⟨other, parsed, same⟩ := keep.1
    obtain ⟨others, parsedOthers, sameOthers⟩ := inductionHypothesis keep.2
    refine ⟨other :: others, ?_, fun user => ?_⟩
    · rw [List.mapM_cons, parsed, parsedOthers]
      rfl
    · rw [List.map_cons, List.map_cons, same user, sameOthers user]

/-! ### Queries -/

namespace Query

/-- Whether every row that keeps the query is read back as a query with the same conditions and
the same order, as statements write them, for everyone. -/
def KeepsMeaning (query : Query) : Prop :=
  ∀ row : SavedRow, ∃ again, (row.update query).toQuery = .ok again ∧
    ∀ user, (Sql.select again user).whereText = (Sql.select query user).whereText ∧
      (Sql.select again user).orderText = (Sql.select query user).orderText

/-- Whether the identifiers that the filters compare with can be written. -/
def HasShortIds (query : Query) : Prop :=
  ∀ filter ∈ query.filters.filters, filter.HasShortIds

theorem keepsMeaning_of_parts {query : Query}
    (keep : ∀ filter ∈ query.filters.filters, filter.KeepsCondition)
    (named : ∀ criterion ∈ query.sorts.criteria, criterion.property ≠ "")
    (found : ∀ column ∈ query.columns.columns, Column.ofName column.name = .ok column) :
    query.KeepsMeaning := by
  intro row
  obtain ⟨again, parsed, same⟩ := exists_again_of_keepsCondition keep
  refine ⟨query.ofRow (row.update query) ⟨again⟩, ?_, fun user => ⟨?_, rfl⟩⟩
  · rw [SavedRow.toQuery_of_parts rfl named found, parseFilters_filtersValue, parsed]
    rfl
  · exact congrArg Sql.whereText (Sql.filterConditions_congr (same user))

end Query

/-! ### Lasting edits -/

namespace Edit

/-- Whether what the edit brings lasts when the query is saved. -/
def IsLasting : Edit → Prop
  | .filter given => given.KeepsCondition
  | .oneOf property _ => PropertyClass.of property = .identifier
  | .only property _ => PropertyClass.of property = .identifier
  | .sorts order => ∀ criterion ∈ order.criteria, criterion.property ≠ ""
  | .sortBy property _ => property ≠ .text ""
  | .thenBy property _ => property ≠ .text ""
  | .columns set => ∀ column ∈ set.columns, Column.ofName column.name = .ok column
  | .addColumn column => Column.ofName column.name = .ok column
  | .addProperty _ => False
  | _ => True

end Edit

namespace Builder

/-- What lasts of a builder: its filters keep their conditions as far as they can be written, its
criteria name properties, and its columns are found under their names. -/
structure Lasting (builder : Builder) : Prop where
  filters : ∀ filter ∈ builder.filters.filters, filter.HasShortIds → filter.KeepsCondition
  sorts : ∀ criterion ∈ builder.sorts.criteria, criterion.property ≠ ""
  columns : ∀ column ∈ builder.columns.columns, Column.ofName column.name = .ok column

theorem lasting_initial : initial.Lasting where
  filters := List.forall_mem_nil _
  sorts := by decide
  columns := ColumnSet.forall_standard

theorem lasting_addFilter {builder : Builder} {filter : Filter} (lasting : builder.Lasting)
    (keeps : filter.HasShortIds → filter.KeepsCondition) : (builder.addFilter filter).Lasting where
  filters := by
    intro other member
    rcases List.mem_append.mp member with old | new
    · exact lasting.filters other old
    · exact List.mem_singleton.mp new ▸ keeps
  sorts := lasting.sorts
  columns := lasting.columns

theorem exists_ids_of_ofIdValues {given : Value} {value : FilterValue}
    (read : FilterValue.ofIdValues given = .ok value) : ∃ ids, value = .ofIds ids := by
  obtain ⟨items, -, readItems⟩ := bind_eq_ok.mp read
  split at readItems
  · obtain ⟨id, -, rfl⟩ := map_eq_ok.mp readItems
    exact ⟨[id], rfl⟩
  · rename_i several
    obtain ⟨ids, readIds, rfl⟩ := map_eq_ok.mp readItems
    refine ⟨ids, ?_⟩
    rw [FilterValue.ofIds]
    rintro id rfl
    have count := length_of_readItems (within_eq_ok.mp readIds)
    obtain ⟨single, rfl⟩ := List.length_eq_one_iff.mp count.symm
    exact several single rfl

theorem exists_id_of_onlyFilter {property : String} {given : Value} {filter : Filter}
    (read : onlyFilter property given = .ok filter) :
    ∃ id, filter = .equals property (.ofIds [id]) := by
  obtain ⟨id, -, rfl⟩ := map_eq_ok.mp read
  exact ⟨id, rfl⟩

theorem property_ne_empty_of_criterion {property : Value} {direction : Direction}
    {criterion : SortCriterion} (named : property ≠ .text "")
    (read : Builder.criterion property direction = .ok criterion) : criterion.property ≠ "" := by
  obtain ⟨written, readText, rfl⟩ := map_eq_ok.mp read
  rintro rfl
  exact named (eq_text_of_text (within_eq_ok.mp readText))

/-- A lasting edit keeps what lasts of a builder. -/
theorem lasting_of_change {builder changed : Builder} {edit : Edit} (lasting : builder.Lasting)
    (sound : edit.IsLasting) (change : builder.change edit = .ok changed) : changed.Lasting := by
  cases edit with
  | filter filter =>
    obtain rfl := Except.ok.inj change
    exact lasting_addFilter lasting fun _ => sound
  | oneOf property ids =>
    obtain ⟨value, read, rfl⟩ := map_eq_ok.mp change
    obtain ⟨ids, rfl⟩ := exists_ids_of_ofIdValues read
    exact lasting_addFilter lasting (Filter.keepsCondition_ofIds sound)
  | only property id =>
    obtain ⟨filter, read, rfl⟩ := map_eq_ok.mp change
    obtain ⟨id, rfl⟩ := exists_id_of_onlyFilter read
    exact lasting_addFilter lasting (Filter.keepsCondition_ofIds sound)
  | inProject id =>
    obtain ⟨filter, read, rfl⟩ := map_eq_ok.mp change
    obtain ⟨id', rfl⟩ := exists_id_of_onlyFilter read
    have keeps := @Filter.keepsCondition_ofIds "project_id" [id'] (by decide)
    have same : ({ builder with projectId := id } : Builder).Lasting :=
      ⟨lasting.filters, lasting.sorts, lasting.columns⟩
    exact lasting_addFilter same keeps
  | subjectContains text =>
    obtain ⟨written, -, rfl⟩ := map_eq_ok.mp change
    exact lasting_addFilter lasting fun _ => Filter.keepsCondition_contains (by decide) written
  | sorts order =>
    obtain rfl := Except.ok.inj change
    exact ⟨lasting.filters, sound, lasting.columns⟩
  | sortBy property direction =>
    obtain ⟨criterion, read, rfl⟩ := map_eq_ok.mp change
    refine ⟨lasting.filters, fun other member => ?_, lasting.columns⟩
    exact List.mem_singleton.mp member ▸ property_ne_empty_of_criterion sound read
  | thenBy property direction =>
    obtain ⟨criterion, read, rfl⟩ := map_eq_ok.mp change
    refine ⟨lasting.filters, fun other member => ?_, lasting.columns⟩
    rcases List.mem_append.mp member with old | new
    · exact lasting.sorts other old
    · exact List.mem_singleton.mp new ▸ property_ne_empty_of_criterion sound read
  | columns set =>
    obtain rfl := Except.ok.inj change
    exact ⟨lasting.filters, lasting.sorts, sound⟩
  | addColumn column =>
    obtain rfl := Except.ok.inj change
    refine ⟨lasting.filters, lasting.sorts, fun other member => ?_⟩
    rcases List.mem_append.mp member with old | new
    · exact lasting.columns other old
    · exact List.mem_singleton.mp new ▸ sound
  | addProperty name => exact sound.elim
  | highlight | group =>
    obtain ⟨_, -, rfl⟩ := map_eq_ok.mp change
    exact ⟨lasting.filters, lasting.sorts, lasting.columns⟩
  | name | project | user | visibility | star | display | zoom | ungroup | subprojects
  | hierarchies | sums =>
    obtain rfl := Except.ok.inj change
    exact ⟨lasting.filters, lasting.sorts, lasting.columns⟩

theorem lasting_apply {builder : Builder} {edit : Edit} (lasting : builder.Lasting)
    (sound : edit.IsLasting) : (builder.apply edit).1.Lasting := by
  unfold apply
  split
  · rename_i changed change
    exact lasting_of_change lasting sound change
  · cases edit <;> exact ⟨lasting.filters, lasting.sorts, lasting.columns⟩

/-- Lasting edits keep what lasts of a builder, whether they succeed or not. -/
theorem lasting_edited {builder : Builder} {edits : List Edit} (lasting : builder.Lasting)
    (sound : ∀ edit ∈ edits, edit.IsLasting) : (builder.edited edits).Lasting := by
  induction edits generalizing builder with
  | nil => exact lasting
  | cons edit edits inductionHypothesis =>
    rw [List.forall_mem_cons] at sound
    exact inductionHypothesis (lasting_apply lasting sound.1) sound.2

/-- Edits that all succeed leave the builder that is left of any edits. -/
theorem edited_of_changes {builder changed : Builder} {edits : List Edit}
    (change : builder.changes edits = .ok changed) : builder.edited edits = changed := by
  induction edits generalizing builder with
  | nil => exact Except.ok.inj change
  | cons edit edits inductionHypothesis =>
    rw [changes, List.foldlM_cons] at change
    obtain ⟨next, first, rest⟩ := bind_eq_ok.mp change
    rw [edited, List.foldl_cons, apply, first]
    exact inductionHypothesis rest

theorem keepsMeaning_of_lasting {builder : Builder} {query : Query} (lasting : builder.Lasting)
    (built : builder.build = .ok query) (short : query.HasShortIds) : query.KeepsMeaning := by
  obtain ⟨filters, sorts, columns⟩ := parts_of_build built
  refine Query.keepsMeaning_of_parts (fun filter member => ?_) (sorts ▸ lasting.sorts)
    (columns ▸ lasting.columns)
  exact lasting.filters filter (filters ▸ member) (short filter member)

end Builder

/-! ### The edits on offer -/

namespace Edit

/-- The edits that keep the work packages of a common question. -/
def questions : List Edit :=
  [onlyOpen, onlyClosed, assignedToMe, unassigned, createdByMe, rootsOnly, dueToday, dueThisWeek,
   overdue]

/-- The properties that can be filtered by any of several identifiers. -/
def listedProperties : List String :=
  ["status_id", "type_id", "assigned_to_id", "author_id", "priority_id", "version_id"]

/-- The edits on offer: all but those that are handed a filter, a sort order or columns of any kind.
An order is asked for by properties that have names. -/
def IsOffered : Edit → Prop
  | .filter given => .filter given ∈ questions
  | .oneOf property _ => property ∈ listedProperties
  | .only property _ => property = "parent_id"
  | .sortBy property _ => property ≠ .text ""
  | .thenBy property _ => property ≠ .text ""
  | .columns set => set = .standard ∨ set = .empty
  | .sorts _ => False
  | .addColumn _ => False
  | .addProperty _ => False
  | _ => True

/-- The filters of the common questions are read back as they are. -/
theorem keepsCondition_of_question {filter : Filter} (question : .filter filter ∈ questions) :
    filter.KeepsCondition := by
  simp only [questions, List.mem_cons, List.not_mem_nil, or_false] at question
  rcases question with same | same | same | same | same | same | same | same | same
  all_goals
    obtain rfl := Edit.filter.inj same
    exact Filter.keepsCondition_of_parseMember (eq_ok_of_toOption (by decide +kernel))

theorem isLasting_of_isOffered {edit : Edit} (offered : edit.IsOffered) : edit.IsLasting := by
  cases edit with
  | filter filter => exact keepsCondition_of_question offered
  | oneOf property ids =>
    have classes : ∀ property ∈ listedProperties, PropertyClass.of property = .identifier := by
      decide
    exact classes property offered
  | only property id =>
    obtain rfl := offered
    exact (by decide : PropertyClass.of "parent_id" = .identifier)
  | columns set =>
    rcases offered with rfl | rfl
    · exact ColumnSet.forall_standard
    · exact List.forall_mem_nil _
  | sortBy | thenBy => exact offered
  | sorts | addColumn | addProperty => exact offered.elim
  | _ => trivial

end Edit

namespace Preset

/-- The placeholder for the requester under an unknown property is read back as a text. Neither
filter has a column to compare with. -/
theorem keepsCondition_watcher : (Filter.currentUser "watcher_id").KeepsCondition := by
  have unmapped : Sql.filterColumn? "watcher_id" = none := by decide
  refine ⟨.equals "watcher_id" (.text placeholder), eq_ok_of_toOption (by decide +kernel),
    fun user => ?_⟩
  rw [Sql.condition?_of_unmapped unmapped, Sql.condition?_of_unmapped unmapped]

theorem isLasting_of_mem_edits (preset : Preset) : ∀ edit ∈ preset.edits, edit.IsLasting := by
  have offered : ∀ edit ∈ preset.edits,
      edit.IsOffered ∨ edit = .filter (.currentUser "watcher_id") := by
    cases preset <;> simp [edits, Edit.IsOffered, Edit.questions, latestFirst, Edit.sortByName,
      Edit.groupByName, Edit.assignedToMe, Edit.onlyOpen, Edit.createdByMe, Edit.overdue]
  intro edit member
  rcases offered edit member with offered | rfl
  · exact Edit.isLasting_of_isOffered offered
  · exact keepsCondition_watcher

/-- Every query on offer is built, and compares with no identifiers. -/
theorem exists_query (preset : Preset) :
    ∃ query, preset.query = .ok query ∧
      ∀ filter ∈ query.filters.filters, filter.value.toIds = [] := by
  cases preset <;> exact ⟨_, rfl, by decide⟩

end Preset

/-! ### Saved queries -/

namespace Query

/-- A query that is built by the edits on offer keeps its meaning when it is saved, if its
identifiers can be written at all; and so does every query on offer. -/
theorem keepsMeaning_of_offered :
    (∀ edits : List Edit, (∀ edit ∈ edits, edit.IsOffered) →
      ∀ query, (Builder.initial.edited edits).build = .ok query → query.HasShortIds →
        query.KeepsMeaning) ∧
    ∀ preset : Preset, ∃ query, preset.query = .ok query ∧ query.KeepsMeaning := by
  constructor
  · intro edits offered query built short
    have lasting := Builder.lasting_edited Builder.lasting_initial fun edit member =>
      Edit.isLasting_of_isOffered (offered edit member)
    exact Builder.keepsMeaning_of_lasting lasting built short
  · intro preset
    obtain ⟨query, found, none⟩ := preset.exists_query
    obtain ⟨builder, changes, built⟩ := bind_eq_ok.mp found
    have titled : (Edit.name (.text preset.title)).IsLasting := by
      trivial
    have lasting := Builder.lasting_edited Builder.lasting_initial
      (List.forall_mem_cons.mpr ⟨titled, preset.isLasting_of_mem_edits⟩)
    rw [Builder.edited_of_changes changes] at lasting
    refine ⟨query, found, Builder.keepsMeaning_of_lasting lasting built fun filter member => ?_⟩
    rw [Filter.HasShortIds, none filter member]
    exact List.forall_mem_nil _

/-- Edits that ask for none of the states, for a project, for the text of the placeholder and for an
order. -/
def mixedEdits : List Edit :=
  [.oneOf "status_id" (.list []), .inProject (.int 3), .subjectContains (.text "me"), .overdue,
    .sortBy (.text "nowhere") .ascending, .thenBy (.text "priority") .descending]

theorem keepsMeaning_of_offered_mixed :
    (∃ query, (Builder.initial.edited mixedEdits).build = .ok query ∧ query.KeepsMeaning) ∧
      ∃ query, Preset.watchedByMe.query = .ok query ∧ query.KeepsMeaning := by
  have offered : ∀ edit ∈ mixedEdits, edit.IsOffered := by
    simp [mixedEdits, Edit.IsOffered, Edit.listedProperties, Edit.questions, Edit.overdue]
  obtain ⟨query, built, small⟩ : ∃ query, (Builder.initial.edited mixedEdits).build = .ok query ∧
      ∀ filter ∈ query.filters.filters, ∀ id ∈ filter.value.toIds, id.natAbs < 10 :=
    ⟨_, rfl, by decide⟩
  have short : query.HasShortIds := fun filter member id inside =>
    lt_of_lt_of_le (small filter member id inside) (Nat.le_self_pow (by decide) 10)
  exact ⟨⟨query, built, keepsMeaning_of_offered.1 mixedEdits offered query built short⟩,
    keepsMeaning_of_offered.2 .watchedByMe⟩

end Query

end WorkQuery
