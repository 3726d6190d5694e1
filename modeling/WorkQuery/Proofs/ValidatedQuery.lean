/-
This file proves that queries survive being written as documents. A query comes out of a document,
is made of parts, or is built by edits, from nothing or from another query (`Query.Validated`).
Whichever way it came about, its columns have been made one by one (`isMade_of_validated`), so that
they are read back. Its filters are read back unless one of the two equalities has the value of the
other (`ofDocument_toValue_of_validated`).
-/

import WorkQuery.Proofs.DocumentForm
import WorkQuery.Query.Builder

namespace WorkQuery

open Json Number Schema

/-! ### Sets of columns -/

namespace ColumnSet

/-- Whether every column of the set has been made. -/
def IsMade (set : ColumnSet) : Prop :=
  ∀ column ∈ set.columns, column.Made

theorem isMade_standard : standard.IsMade := by
  intro column member
  obtain ⟨name, -, found⟩ := List.mem_filterMap.mp member
  have named : Column.ofName name = .ok column := by
    rw [Column.ofName, found]
  exact .named named

theorem isMade_add {set : ColumnSet} {column : Column} (made : set.IsMade)
    (madeColumn : column.Made) : (set.add column).IsMade := by
  intro other member
  rcases List.mem_append.mp member with old | new
  · exact made other old
  · exact List.mem_singleton.mp new ▸ madeColumn

theorem isMade_of_ofValue {value : Value} {set : ColumnSet} (read : ofValue value = .ok set) :
    set.IsMade := by
  obtain ⟨fields, -, readSet⟩ := bind_eq_ok.mp read
  obtain ⟨columns, readColumns, rfl⟩ := map_eq_ok.mp readSet
  rcases optional_eq_ok readColumns with ⟨-, rfl⟩ | ⟨given, -, readItems⟩
  · exact List.forall_mem_nil _
  · cases given with
    | list given => exact forall_of_readItems (fun _ _ => .read) readItems
    | _ => cases readItems

end ColumnSet

/-! ### Builders -/

namespace Edit

/-- Whether the columns that the edit brings have been made. -/
def IsMade : Edit → Prop
  | .columns set => set.IsMade
  | .addColumn column => column.Made
  | _ => True

end Edit

namespace Builder

/-- The builder after a list of edits, whether they succeed or not. -/
def edited (builder : Builder) (edits : List Edit) : Builder :=
  edits.foldl (fun builder edit => (builder.apply edit).1) builder

theorem isMade_of_change {builder changed : Builder} {edit : Edit} (made : builder.columns.IsMade)
    (sound : edit.IsMade) (change : builder.change edit = .ok changed) :
    changed.columns.IsMade := by
  cases edit with
  | columns columns =>
    obtain rfl := Except.ok.inj change
    exact sound
  | addColumn column =>
    obtain rfl := Except.ok.inj change
    exact ColumnSet.isMade_add made sound
  | addProperty name =>
    obtain ⟨column, named, rfl⟩ := map_eq_ok.mp change
    obtain ⟨written, -, rfl⟩ := map_eq_ok.mp named
    exact ColumnSet.isMade_add made (.property written)
  | highlight | oneOf | only | inProject | subjectContains | sortBy | thenBy | group =>
    obtain ⟨_, -, rfl⟩ := map_eq_ok.mp change
    exact made
  | name | project | user | visibility | star | display | zoom | filter | sorts | ungroup
  | subprojects | hierarchies | sums =>
    obtain rfl := Except.ok.inj change
    exact made

/-- An edit keeps the columns made, whether it succeeds or not. -/
theorem isMade_apply {builder : Builder} {edit : Edit} (made : builder.columns.IsMade)
    (sound : edit.IsMade) : (builder.apply edit).1.columns.IsMade := by
  unfold apply
  split
  · rename_i changed change
    exact isMade_of_change made sound change
  · cases edit <;> exact made

theorem isMade_edited {builder : Builder} {edits : List Edit} (made : builder.columns.IsMade)
    (sound : ∀ edit ∈ edits, edit.IsMade) : (builder.edited edits).columns.IsMade := by
  induction edits generalizing builder with
  | nil => exact made
  | cons edit edits inductionHypothesis =>
    rw [List.forall_mem_cons] at sound
    exact inductionHypothesis (isMade_apply made sound.1) sound.2

/-- The parts that a builder hands on as they are. -/
theorem parts_of_build {builder : Builder} {query : Query} (built : builder.build = .ok query) :
    query.filters = builder.filters ∧ query.sorts = builder.sorts ∧
      query.columns = builder.columns := by
  obtain ⟨_, readParts, rfl⟩ := map_eq_ok.mp built
  obtain ⟨_, zoom, parts, -, rfl⟩ := both_eq_ok readParts
  obtain ⟨_, upToProject, rfl⟩ := map_eq_ok.mp parts
  obtain ⟨_, projectId, upToUser, -, rfl⟩ := both_eq_ok upToProject
  obtain ⟨_, userId, upToName, -, rfl⟩ := both_eq_ok upToUser
  obtain ⟨name, -, rfl⟩ := map_eq_ok.mp upToName
  exact ⟨rfl, rfl, rfl⟩

theorem columns_of_build {builder : Builder} {query : Query} (built : builder.build = .ok query) :
    query.columns = builder.columns :=
  (parts_of_build built).2.2

end Builder

/-! ### Queries -/

namespace Query

/-- The ways in which a query comes about: it is read from a document, composed of parts, or built
by edits, from nothing or from another query. -/
inductive Validated : Query → Prop
  | read {document : Value} {query : Query} (read : ofDocument document = .ok query) :
    Validated query
  | composed {query : Query} (made : query.columns.IsMade) : Validated query
  | built {edits : List Edit} {query : Query} (sound : ∀ edit ∈ edits, edit.IsMade)
    (built : (Builder.initial.edited edits).build = .ok query) : Validated query
  | rebuilt {edits : List Edit} {query again : Query} (validated : Validated query)
    (sound : ∀ edit ∈ edits, edit.IsMade)
    (built : ((Builder.ofQuery query).edited edits).build = .ok again) : Validated again

theorem exists_ofValue_of_ofDocument {document : Value} {query : Query}
    (read : ofDocument document = .ok query) : ∃ value, ofValue value = .ok query := by
  unfold ofDocument at read
  split at read
  · unfold ofText at read
    split at read
    · cases read
    · split at read
      · exact ⟨_, counted_eq_ok.mp read⟩
      · cases read
  · exact ⟨_, counted_eq_ok.mp read⟩

theorem isMade_of_ofDocument {document : Value} {query : Query}
    (read : ofDocument document = .ok query) : query.columns.IsMade := by
  obtain ⟨value, readValue⟩ := exists_ofValue_of_ofDocument read
  obtain ⟨fields, -, -, readColumns⟩ := exists_parts_of_ofValue readValue
  rcases optional_eq_ok readColumns with ⟨-, standard⟩ | ⟨given, -, readSet⟩
  · rw [standard]
    exact ColumnSet.isMade_standard
  · exact ColumnSet.isMade_of_ofValue readSet

/-- However a query came about, its columns have been made. -/
theorem isMade_of_validated {query : Query} (validated : query.Validated) :
    query.columns.IsMade := by
  induction validated with
  | read read => exact isMade_of_ofDocument read
  | composed made => exact made
  | built sound built =>
    rw [Builder.columns_of_build built]
    exact Builder.isMade_edited ColumnSet.isMade_standard sound
  | rebuilt _ sound built inductionHypothesis =>
    rw [Builder.columns_of_build built]
    exact Builder.isMade_edited inductionHypothesis sound

theorem reread_eq_self {query : Query}
    (normal : ∀ filter ∈ query.filters.filters, filter.reread = filter) : query.reread = query := by
  rw [reread, withFilters, List.map_congr_left normal, List.map_id']

/-- A validated query is read back from its document, part by part, if each of its two equalities
stands beside its own kind of value and its day counts fit into a code. -/
theorem ofDocument_toValue_of_validated {query : Query} (validated : query.Validated)
    (personal : ∀ filter ∈ query.filters.filters,
      filter.operator = .fixed .currentUserEquals → filter.value = .currentUser)
    (plain : ∀ filter ∈ query.filters.filters,
      filter.operator = .fixed .equals → filter.value ≠ .currentUser)
    (short : query.HasShortCounts) : ofDocument query.toValue = .ok query := by
  have settled : ∀ column ∈ query.columns.columns, column.IsSettled := fun column member =>
    Column.isSettled_of_made (isMade_of_validated validated column member)
  have normal : ∀ filter ∈ query.filters.filters, filter.reread = filter := fun filter member =>
    Filter.reread_eq_self_iff.mpr ⟨personal filter member, plain filter member⟩
  rw [ofDocument_toValue settled short, reread_eq_self normal]

/-- A query with an operator of each sort and the column of a custom field. -/
def lateQuery : Query :=
  { plain "Late" with
    filters := ⟨[.currentUser "assigned_to_id", .equals "status_id" (.ids [1, 2]),
      ⟨"due_date", .relative .moreThanDaysAgo (-3), .absent⟩]⟩
    columns := ⟨[.ofProperty "id", .ofCustomField 7]⟩ }

theorem ofDocument_toValue_of_validated_late :
    lateQuery.Validated ∧ ofDocument lateQuery.toValue = .ok lateQuery := by
  have validated : lateQuery.Validated := by
    refine .composed fun column member => ?_
    rcases List.mem_pair.mp member with rfl | rfl
    · exact .property "id"
    · exact .customField 7
  refine ⟨validated, ofDocument_toValue_of_validated validated (by decide) (by decide) ?_⟩
  have small : ∀ filter ∈ lateQuery.filters.filters, ∀ days ∈ filter.operator.days?,
      days.natAbs < 10 := by decide
  intro filter member days counted
  exact lt_of_lt_of_le (small filter member days counted) (Nat.le_self_pow (by decide) 10)

end Query

end WorkQuery
