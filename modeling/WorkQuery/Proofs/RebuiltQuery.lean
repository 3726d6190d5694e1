/-
This file follows queries through builders. The builder that starts from a query keeps every part of
it but the timeline, which the built query shows exactly if it is a chart over time
(`build_ofQuery`). A query that is revised part by part turns its timeline on with a chart and never
off again, so that a builder may lose the timeline or add one (`build_revised_iff`). That is the
only difference: an edit that can be made either way leads from the builder of a query to the
builder of the revised query (`change_ofQuery`), and so does a run of edits (`built_like_revised`).
-/

import WorkQuery.Proofs.DocumentForm
import WorkQuery.Query.Builder
import WorkQuery.Sql.Selection

namespace WorkQuery

open Json Schema

/-! ### Revisions -/

namespace Query

/-- A revision of a query: a part that is replaced, or one more filter. -/
inductive Revision
  | id (id : Int)
  | user (userId : Int)
  | visibility (visibility : Visibility)
  | display (representation : Representation)
  | filter (filter : Filter)
  | filters (filters : FilterSet)
  | sorts (sorts : SortOrder)
  | columns (columns : ColumnSet)
  | grouping (grouping : Grouping)
  | star (starred : Bool)

/-- The representation that a revision brings, if it brings one. -/
def Revision.display? : Revision → Option Representation
  | .display representation => some representation
  | _ => none

/-- The query after a revision. -/
def revise (query : Query) : Revision → Query
  | .id id => query.withId id
  | .user userId => query.withUser userId
  | .visibility visibility => query.withVisibility visibility
  | .display display => query.withDisplay display
  | .filter filter => query.withFilter filter
  | .filters filters => query.withFilters filters
  | .sorts sorts => query.withSorts sorts
  | .columns columns => query.withColumns columns
  | .grouping grouping => query.withGrouping grouping
  | .star starred => query.withStar starred

/-- The query after all revisions of a list, one after the other. -/
def revised (query : Query) (revisions : List Revision) : Query :=
  revisions.foldl revise query

/-- A revision turns the timeline on if it brings a chart over time, and leaves it as it is
otherwise. -/
theorem showTimeline_revise {query : Query} {revision : Revision} :
    (query.revise revision).showTimeline = true ↔
      query.showTimeline = true ∨ revision = .display .gantt := by
  cases revision with
  | display display =>
    change (query.showTimeline || display == .gantt) = true ↔ _
    rw [Bool.or_eq_true, beq_iff_eq, Revision.display.injEq]
  | _ => exact (or_iff_left nofun).symm

theorem display_revise (query : Query) (revision : Revision) :
    (query.revise revision).display = revision.display?.getD query.display := by
  cases revision <;> rfl

/-- A timeline that has been turned on stays, whatever the query becomes. -/
theorem showTimeline_revised {query : Query} {revisions : List Revision} :
    (query.revised revisions).showTimeline = true ↔
      query.showTimeline = true ∨ .display .gantt ∈ revisions := by
  induction revisions generalizing query with
  | nil => exact (or_iff_left List.not_mem_nil).symm
  | cons revision revisions inductionHypothesis =>
    change ((query.revise revision).revised revisions).showTimeline = true ↔ _
    rw [inductionHypothesis, showTimeline_revise, or_assoc, List.mem_cons]
    exact or_congr_right (or_congr_left eq_comm)

/-- The last representation is the one that counts. -/
theorem display_revised (query : Query) (revisions : List Revision) :
    (query.revised revisions).display =
      (revisions.filterMap Revision.display?).getLastD query.display := by
  induction revisions generalizing query with
  | nil => rfl
  | cons revision revisions inductionHypothesis =>
    change ((query.revise revision).revised revisions).display = _
    rw [inductionHypothesis, display_revise]
    cases brought : revision.display? with
    | none => rw [List.filterMap_cons_none brought, Option.getD_none]
    | some display => rw [List.filterMap_cons_some brought, List.getLastD_cons, Option.getD_some]

end Query

/-! ### Builders -/

namespace Builder

/-- The builder that starts from a query builds it again, but for the timeline. -/
theorem build_ofQuery (query : Query) :
    (ofQuery query).build = .ok { query with showTimeline := query.display == .gantt } := by
  unfold build ofQuery
  dsimp only
  rw [text_text, RawRow.nullable_integers, RawRow.nullable_integers,
    memberOf_text (holdsHalf_zoom query.zoom) (ZoomLevel.ofName?_name query.zoom)]
  rfl

theorem build_ofQuery_eq_iff {query : Query} :
    (ofQuery query).build = .ok query ↔
      (query.showTimeline = true ↔ query.display = .gantt) := by
  rw [build_ofQuery, Except.ok.injEq, ← beq_iff_eq (a := query.display), ← Bool.eq_iff_iff]
  constructor
  · intro same
    exact (congrArg Query.showTimeline same).symm
  · intro same
    rw [← same]

/-- However a query came about and has been revised, the builder that starts from it builds a query
with the same parts. It builds the very query exactly if the timeline agrees with the last
representation: there is one, from the start or from a chart on the way, if and only if it is a
chart in the end. -/
theorem build_revised_iff (query : Query) (revisions : List Query.Revision) :
    (∃ built, (ofQuery (query.revised revisions)).build = .ok built ∧
      { built with showTimeline := (query.revised revisions).showTimeline } =
        query.revised revisions) ∧
    ((ofQuery (query.revised revisions)).build = .ok (query.revised revisions) ↔
      ((query.showTimeline = true ∨ .display .gantt ∈ revisions) ↔
        (revisions.filterMap Query.Revision.display?).getLastD query.display = .gantt)) := by
  refine ⟨⟨_, build_ofQuery _, rfl⟩, ?_⟩
  rw [build_ofQuery_eq_iff, Query.showTimeline_revised, Query.display_revised]

/-- A document that asks for a timeline and for nothing else. -/
def timelineDocument : Value := .object [("show_timeline", .bool true)]

/-- It is not the case that every query read from a document, and revised in whatever way, is built
again by the builder that starts from it. -/
theorem timeline_not_rebuilt :
    ¬∀ (document : Value) (query : Query) (revisions : List Query.Revision),
      Query.ofDocument document = .ok query →
        (ofQuery (query.revised revisions)).build = .ok (query.revised revisions) := by
  intro all
  have read : Query.ofDocument timelineDocument =
      .ok { Query.plain "Unnamed query" with showTimeline := true } := rfl
  have shown := build_ofQuery_eq_iff.mp (all timelineDocument _ [] read)
  exact absurd (shown.mp rfl) nofun

end Builder

/-! ### Edits -/

/-- An edit that can be made to a builder as well as to a query. -/
inductive SharedEdit
  | filter (added : Filter)
  | sorts (order : SortOrder)
  | columns (chosen : ColumnSet)
  | visibility (audience : Visibility)
  | display (representation : Representation)
  | group (property : String) (collapsed : Bool)
  | ungroup
  | user (id : Int)
  | star

namespace SharedEdit

/-- The edit of a builder. -/
def edit : SharedEdit → Edit
  | .filter added => .filter added
  | .sorts order => .sorts order
  | .columns chosen => .columns chosen
  | .visibility audience => .visibility audience
  | .display representation => .display representation
  | .group property collapsed => .group (.text property) (.bool collapsed)
  | .ungroup => .ungroup
  | .user id => .user (.int id)
  | .star => .star

/-- The revision of a query. -/
def revision : SharedEdit → Query.Revision
  | .filter added => .filter added
  | .sorts order => .sorts order
  | .columns chosen => .columns chosen
  | .visibility audience => .visibility audience
  | .display representation => .display representation
  | .group property collapsed => .grouping ⟨some property, collapsed⟩
  | .ungroup => .grouping .none
  | .user id => .user id
  | .star => .star true

end SharedEdit

namespace Builder

/-- An edit of the builder of a query gives the builder of the revised query. -/
theorem change_ofQuery (query : Query) (edit : SharedEdit) :
    (ofQuery query).change edit.edit = .ok (ofQuery (query.revise edit.revision)) := by
  cases edit with
  | group property collapsed =>
    have read : grouping? (.text property) (.bool collapsed) = .ok ⟨some property, collapsed⟩ :=
      Grouping.ofValue_toValue ⟨some property, collapsed⟩
    change (grouping? (.text property) (.bool collapsed)).map
      (fun grouping => { ofQuery query with grouping }) = _
    rw [read]
    rfl
  | _ => rfl

theorem changes_cons (builder : Builder) (edit : Edit) (edits : List Edit) :
    builder.changes (edit :: edits) =
      builder.change edit >>= fun changed => changed.changes edits := rfl

/-- Edits of the builder of a query give the builder of the revised query. -/
theorem changes_ofQuery (query : Query) (edits : List SharedEdit) :
    (ofQuery query).changes (edits.map SharedEdit.edit) =
      .ok (ofQuery (query.revised (edits.map SharedEdit.revision))) := by
  induction edits generalizing query with
  | nil => rfl
  | cons edit edits inductionHypothesis =>
    rw [List.map_cons, changes_cons, change_ofQuery, ok_bind, inductionHypothesis]
    rfl

/-- Whether edits are made in the builder that starts from a query or to the query itself, the
outcome is the same in every part but the timeline, which the builder shows in a chart over time and
nowhere else. Both queries become the same statements for every requester. -/
theorem built_like_revised (query : Query) (edits : List SharedEdit) :
    ∃ built, (ofQuery query).changes (edits.map SharedEdit.edit) >>= build = .ok built ∧
      { built with
        showTimeline := (query.revised (edits.map SharedEdit.revision)).showTimeline } =
          query.revised (edits.map SharedEdit.revision) ∧
      (built.showTimeline = true ↔ built.display = .gantt) ∧
      ∀ user, Sql.select built user =
        Sql.select (query.revised (edits.map SharedEdit.revision)) user := by
  let revised := query.revised (edits.map SharedEdit.revision)
  refine ⟨{ revised with showTimeline := revised.display == .gantt }, ?_, rfl, beq_iff_eq,
    fun _ => rfl⟩
  rw [changes_ofQuery, ok_bind, build_ofQuery]

end Builder

end WorkQuery
