/-
This file proves that the rows of the table of saved queries are well formed, field by field, in
whatever way requests have brought the table about (`isWellFormed_of_reachable`). A row is written
from a query only, so that its fields have the form that queries are written in. What this form does
not settle is known of the queries themselves: a name of the right length, an order with criteria,
and a timeline for a chart over time. Drafts make such queries, and a change keeps them such, also
when it is applied to a query that was read back from a row.
-/

import WorkQuery.Proofs.FaultyRows

namespace WorkQuery

open CompactForm Json Number Schema

/-! ### The fields of rows -/

/-- A stored filter: a property with the code of an operator, which is the code that the operator
read from it has, and with texts for values. -/
def IsStoredFilter (entry : Value) : Prop :=
  ∃ property code values,
    entry = .object [(property, .object [("operator", .text code), ("values", .texts values)])] ∧
      ∃ operator, Operator.parse code = .ok (some operator) ∧ operator.code = code

/-- A stored criterion: a property and the short name of a direction. -/
def IsStoredCriterion (entry : Value) : Prop :=
  ∃ property direction, entry = .texts [property, direction] ∧ property ≠ "" ∧
    (direction = "asc" ∨ direction = "desc")

/-- A row each of whose fields can be what it is and goes with the others. -/
structure SavedRow.IsWellFormed (row : SavedRow) : Prop where
  name : 1 ≤ Text.textLength row.content.name ∧ Text.textLength row.content.name ≤ 255
  visibility : (Visibility.ofName? row.content.visibility).isSome
  display : (Representation.ofName? row.content.display).isSome
  highlighting : (HighlightMode.ofName? row.content.highlightingMode).isSome
  zoom : (ZoomLevel.ofName? row.content.zoom).isSome
  timeline : row.content.display = "gantt" → row.content.showTimeline = true
  filters : ∃ entries, row.content.filters = .list entries ∧ ∀ entry ∈ entries, IsStoredFilter entry
  sorts : ∃ entries, row.content.sortCriteria = .list entries ∧ entries ≠ [] ∧
    ∀ entry ∈ entries, IsStoredCriterion entry
  columns : (ColumnSet.ofNames row.content.columnNames).map ColumnSet.names =
    .ok row.content.columnNames

/-! ### Fields written from queries -/

theorem Representation.eq_gantt_of_name {representation : Representation}
    (named : representation.name = "gantt") : representation = .gantt := by
  cases representation with
  | gantt => rfl
  | _ => exact absurd named (by decide)

/-- Whatever the code of an operator is read as has this code again. -/
theorem Operator.exists_parse_code {operator : Operator}
    (short : ∀ kind days, operator = .relative kind days → days.natAbs < 10 ^ digitLimit) :
    ∃ again, parse operator.code = .ok (some again) ∧ again.code = operator.code := by
  cases operator with
  | fixed kind => exact ⟨_, parse_fixed kind, by cases kind <;> rfl⟩
  | relative kind days => exact ⟨_, parse_relative kind (short kind days rfl), rfl⟩

theorem isStoredFilter_filterValue {filter : Filter} (read : IsRead filter) :
    IsStoredFilter (filterValue filter) :=
  ⟨filter.property, filter.operator.code, valueTexts filter.value, rfl,
    Operator.exists_parse_code read.short⟩

/-- What is known of a query that a row is written from, beside that its parts have been read. -/
structure Query.IsComplete (query : Query) : Prop where
  name : 1 ≤ Text.textLength query.name ∧ Text.textLength query.name ≤ 255
  sorts : query.sorts.isEmpty = false
  timeline : query.display = .gantt → query.showTimeline = true

namespace SavedRow

/-- A row that keeps a parsed and complete query. -/
def KeepsComplete (row : SavedRow) : Prop :=
  ∃ query, row.content = .ofQuery query ∧ Query.IsParsed query ∧ Query.IsComplete query

theorem isWellFormed_of_keepsComplete {row : SavedRow} (keeps : row.KeepsComplete) :
    row.IsWellFormed := by
  obtain ⟨query, keeps, parsed, complete⟩ := keeps
  constructor <;> rw [keeps]
  · exact complete.name
  · exact Option.isSome_iff_exists.mpr ⟨_, query.visibility.ofName?_name⟩
  · exact Option.isSome_iff_exists.mpr ⟨_, query.display.ofName?_name⟩
  · exact Option.isSome_iff_exists.mpr ⟨_, query.highlighting.mode.ofName?_name⟩
  · exact Option.isSome_iff_exists.mpr ⟨_, query.zoom.ofName?_name⟩
  · exact fun named => complete.timeline (Representation.eq_gantt_of_name named)
  · refine ⟨_, rfl, fun entry member => ?_⟩
    obtain ⟨filter, inside, rfl⟩ := List.mem_map.mp member
    exact isStoredFilter_filterValue (parsed.filters filter inside)
  · refine ⟨_, rfl, fun empty => ?_, fun entry member => ?_⟩
    · have sorts := complete.sorts
      rw [SortOrder.isEmpty, List.map_eq_nil_iff.mp empty] at sorts
      cases sorts
    · obtain ⟨criterion, inside, rfl⟩ := List.mem_map.mp member
      refine ⟨criterion.property, criterion.direction.name, rfl, parsed.sorts _ inside, ?_⟩
      cases criterion.direction with
      | ascending => exact .inl rfl
      | descending => exact .inr rfl
  · exact map_eq_ok.mpr ⟨query.columns, ColumnSet.ofNames_names parsed.columns, rfl⟩

theorem keepsComplete_withStar {row : SavedRow} (keeps : row.KeepsComplete) (starred : Bool) :
    (row.withStar starred).KeepsComplete := by
  obtain ⟨query, keeps, parsed, complete⟩ := keeps
  exact ⟨query.withStar starred, content_withStar keeps starred,
    ⟨parsed.name, parsed.filters, parsed.sorts, parsed.columns⟩,
    ⟨complete.name, complete.sorts, complete.timeline⟩⟩

/-- What is read from a row that keeps a complete query is complete. -/
theorem isComplete_of_toQuery {row : SavedRow} {query : Query} (keeps : row.KeepsComplete)
    (read : row.toQuery = .ok query) : query.IsComplete := by
  obtain ⟨kept, keeps, parsed, complete⟩ := keeps
  rw [toQuery_ofQuery keeps parsed] at read
  obtain ⟨filters, -, rfl⟩ := map_eq_ok.mp read
  exact ⟨complete.name, complete.sorts, complete.timeline⟩

end SavedRow

namespace Service

/-! ### Bodies -/

theorem isEmpty_of_sortsOf {criteria : List (List String)} {order : SortOrder}
    (read : sortsOf criteria = .ok order) : order.isEmpty = false := by
  obtain ⟨given, -, rfl⟩ := map_eq_ok.mp read
  exact given.isEmpty_orStandard

/-- A display of its own brings a timeline along where it needs one. -/
theorem timeline_withDisplay (query : Query) (display : Representation) :
    (query.withDisplay display).display = .gantt →
      (query.withDisplay display).showTimeline = true := by
  rintro (rfl : display = .gantt)
  exact Bool.or_true _

/-- The query of a draft is complete. -/
theorem Draft.isComplete {value : Value} {draft : Draft} {query : Query}
    (given : ofValue value = .ok draft) (read : draft.toQuery = .ok query) : query.IsComplete := by
  obtain ⟨written, named⟩ := exists_queryName given
  have name := (exists_whole_of_queryName named).2
  obtain ⟨filters, sorts, columns, -, readSorts, -, rfl⟩ := exists_parts_of_toQuery read
  exact ⟨name, isEmpty_of_sortsOf readSorts, timeline_withDisplay _ draft.display⟩

/-- A change keeps a query complete: only the name, the order and the display could make a
difference. -/
theorem Change.isComplete {value : Value} {change : Change} {before after : Query}
    (given : ofValue value = .ok change) (applied : change.Applied before after)
    (complete : before.IsComplete) : after.IsComplete where
  name := applied.name.holds (fun name => 1 ≤ Text.textLength name ∧ Text.textLength name ≤ 255)
    complete.name fun name brought same => by
      obtain ⟨written, read⟩ := exists_queryName given name brought
      exact Except.ok.inj same ▸ (exists_whole_of_queryName read).2
  sorts := applied.sorts.holds (fun sorts => sorts.isEmpty = false) complete.sorts
    fun _ _ read => isEmpty_of_sortsOf read
  timeline := by
    intro charts
    rw [applied.showTimeline]
    have display := applied.display.eq_getD
    cases brought : change.display with
    | none =>
      rw [brought, charts] at display
      rw [complete.timeline display.symm]
      rfl
    | some shown =>
      rw [brought, charts] at display
      obtain rfl : .gantt = shown := display
      exact Bool.or_true _

/-! ### The table -/

variable {state : State}

theorem keepsComplete_of_drafted {user : Int} {body : Option Value} {row : SavedRow}
    (drafted : draftedRow state user body = .ok row) : row.KeepsComplete := by
  obtain ⟨value, draft, query, -, readBody, readQuery, rfl, -⟩ := exists_query_of_draftedRow drafted
  have parsed := Draft.isParsed (Draft.holdsHalf_name readBody) readQuery
  have complete := Draft.isComplete readBody readQuery
  exact ⟨query.withUser user, rfl, Query.isParsed_withUser parsed user,
    ⟨complete.name, complete.sorts, complete.timeline⟩⟩

theorem keepsComplete_of_revised {row : SavedRow}
    (table : ∀ row ∈ state.saved, row.KeepsComplete) (revised : Revised state row) :
    row.KeepsComplete := by
  cases revised with
  | changed made =>
    obtain ⟨number, value, change, old, query, changed, -, -, readBody, found, readQuery, applied,
      rfl, -⟩ := exists_update_of_changedRow made
    have keeps := table _ (mem_of_ownedRow found)
    have complete := SavedRow.isComplete_of_toQuery keeps readQuery
    obtain ⟨kept, content, parsed, -⟩ := keeps
    have parsed := SavedRow.isParsed_of_toQuery ⟨kept, content, parsed⟩ readQuery
    have applied := Change.applied_of_apply applied
    exact ⟨changed, rfl, applied.isParsed (Change.holdsHalf_name readBody) parsed,
      Change.isComplete readBody applied complete⟩
  | starred named starred =>
    exact SavedRow.keepsComplete_withStar (table _ (mem_of_namedRow named)) starred

/-- Whatever a request does, the rows go on to keep complete queries. -/
theorem keepsComplete_of_effect {effect : Outcome}
    (table : ∀ row ∈ state.saved, row.KeepsComplete) (effects : Effect state effect) :
    ∀ row ∈ effect.saved, row.KeepsComplete := by
  intro row member
  cases effects with
  | unchanged reply => exact table row member
  | added drafted =>
    rcases List.mem_append.mp member with old | new
    · exact table row old
    · exact List.mem_singleton.mp new ▸ keepsComplete_of_drafted drafted
  | replaced revised =>
    rcases mem_put member with rfl | old
    · exact keepsComplete_of_revised table revised
    · exact table row old
  | removed named => exact table row (List.mem_of_mem_filter member)

theorem keepsComplete_of_reachable {rows : SavedRows} (reached : Reachable rows) :
    ∀ row ∈ rows, row.KeepsComplete := by
  induction reached with
  | empty => exact List.forall_mem_nil _
  | @step state reached request inductionHypothesis =>
    obtain ⟨effect, effects, saved, -⟩ := exists_effect state request
    rw [saved]
    exact keepsComplete_of_effect inductionHypothesis effects

/-- Whatever requests have come, every row of the table is well formed. -/
theorem isWellFormed_of_reachable {rows : SavedRows} (reached : Reachable rows) :
    ∀ row ∈ rows, row.IsWellFormed :=
  fun row member =>
    SavedRow.isWellFormed_of_keepsComplete (keepsComplete_of_reachable reached row member)

/-- A request by the user 1 with a body. -/
def chartRequest (method path : String) (body : Fields) : Request where
  method
  path
  parameters := []
  body := .value (.object body)
  token := some (issue [("sub", .text "1")] 1)

/-- The user 1 saves a query, turns it into a chart and gives it a star. The column, the code of the
filter, the sort order and the direction are not written in the way that a row keeps them. -/
def chartRequests : List Request :=
  [chartRequest "POST" "/queries" [("name", .text "Plan"), ("columns", .texts ["cf_007"]),
      ("filters", .list [.object [("due_date",
        .object [("operator", .text "<t+"), ("values", .list [.int 7])])]])],
    chartRequest "PATCH" "/queries/1" [("display", .text "gantt"), ("visibility", .null),
      ("sortBy", .list [.list [.text "due_date", .text "Descending"]])],
    chartRequest "PATCH" "/queries/1" [("name", .text "Chart"), ("sortBy", .list [])],
    chartRequest "POST" "/queries/1/star" []]

theorem isWellFormed_of_reachable_chart :
    ∃ row ∈ (run freshService chartRequests).2.saved, row.content.display = "gantt" ∧
      row.content.starred = true ∧ row.content.columnNames = ["cf_7"] ∧ row.IsWellFormed := by
  have reached : Reachable (run freshService chartRequests).2.saved :=
    reachable_run chartRequests .empty
  have charted : ∃ row ∈ (run freshService chartRequests).2.saved,
      row.content.display = "gantt" ∧ row.content.starred = true ∧
        row.content.columnNames = ["cf_7"] := by
    decide +kernel
  obtain ⟨row, member, display, starred, columns⟩ := charted
  exact ⟨row, member, display, starred, columns, isWellFormed_of_reachable reached row member⟩

end Service

end WorkQuery
