/-
This file holds the bodies with which queries are saved and changed. A draft describes a whole
query, most of whose parts may be left out; a change describes the parts that are to be replaced,
and a part that is null is left alone. Two members have a second name.
-/

import WorkQuery.CompactForm.Filters
import WorkQuery.CompactForm.Sorts
import WorkQuery.Query.Basic

namespace WorkQuery.Service

open CompactForm Json Schema

/-! ### Parts -/

/-- A member that may be left out and that has two names, the first of which wins. -/
def optionalUnder {Part : Type} (fields : Fields) (name otherName : String) (fallback : Part)
    (read : Value → Checked Part) : Checked Part :=
  if (fields.get? name).isSome then optional fields name fallback read
  else optional fields otherName fallback read

/-- An object in the compact form of filters. -/
def filterEntry : Value → Checked Value
  | .object fields => .ok (.object fields)
  | _ => reject .mapKind

/-- The members of a body. -/
def bodyRecord : Value → Checked Fields
  | .object fields => .ok fields
  | _ => reject .modelOrTagKind

/-- The name of a saved query. -/
def queryName : Value → Checked String := boundedText 1 255

/-- The sort order of lists of texts; an empty one means the standard order. -/
def sortsOf (criteria : List (List String)) : Checked SortOrder :=
  (parseSorts (.list (criteria.map .texts))).map SortOrder.orStandard

/-- The columns of names. -/
def columnsOf (names : List String) : Checked ColumnSet :=
  (ColumnSet.ofNames names).mapError .conversion

/-! ### Drafts -/

/-- A query that is to be saved. -/
structure Draft where
  name : String
  projectId : Option Int
  visibility : Visibility
  display : Representation
  filters : List Value
  sortBy : List (List String)
  columns : Option (List String)
  groupBy : Option String
  highlightingMode : HighlightMode
  zoom : ZoomLevel
  includeSubprojects : Bool
  showHierarchies : Bool
  showSums : Bool

namespace Draft

/-- The draft of a body. -/
def ofValue (value : Value) : Checked Draft := do
  let fields ← bodyRecord value
  let name := (required fields "name" queryName).map Draft.mk
  let projectId := both name (optional fields "project_id" none (nullable integer))
  let visibility := both projectId
    (optional fields "visibility" .own (memberOf Visibility.ofName?))
  let display := both visibility
    (optional fields "display" .list (memberOf Representation.ofName?))
  let filters := both display (optional fields "filters" [] (items filterEntry))
  let sortBy := both filters (optionalUnder fields "sortBy" "sort_by" [] (items (items text)))
  let columns := both sortBy (optional fields "columns" none (nullable (items text)))
  let groupBy := both columns (optionalUnder fields "groupBy" "group_by" none (nullable text))
  let mode := both groupBy
    (optional fields "highlighting_mode" .none (memberOf HighlightMode.ofName?))
  let zoom := both mode
    (optional fields "timeline_zoom_level" .weeks (memberOf ZoomLevel.ofName?))
  let includeSubprojects := both zoom (optional fields "include_subprojects" true truth)
  let showHierarchies := both includeSubprojects (optional fields "show_hierarchies" true truth)
  both showHierarchies (optional fields "show_sums" false truth)

/-- The query of a draft. -/
def toQuery (draft : Draft) : Checked Query := do
  let sorts ← sortsOf draft.sortBy
  let filters ← parseFilters (.list draft.filters)
  let columns ← match draft.columns with
    | some names => columnsOf names
    | none => .ok .standard
  let query : Query :=
    { Query.plain draft.name with
      projectId := draft.projectId
      visibility := draft.visibility
      filters
      sorts
      columns
      grouping := ⟨draft.groupBy, false⟩
      highlighting := ⟨draft.highlightingMode, []⟩
      zoom := draft.zoom
      includeSubprojects := draft.includeSubprojects
      showHierarchies := draft.showHierarchies
      showSums := draft.showSums }
  return query.withDisplay draft.display

end Draft

/-! ### Changes -/

/-- The parts of a saved query that are to be replaced. -/
structure Change where
  name : Option String
  visibility : Option Visibility
  display : Option Representation
  filters : Option (List Value)
  sortBy : Option (List (List String))
  columns : Option (List String)
  groupBy : Option String
  showSums : Option Bool

namespace Change

/-- The change of a body. -/
def ofValue (value : Value) : Checked Change := do
  let fields ← bodyRecord value
  let name := (optional fields "name" none (nullable queryName)).map Change.mk
  let visibility := both name
    (optional fields "visibility" none (nullable (memberOf Visibility.ofName?)))
  let display := both visibility
    (optional fields "display" none (nullable (memberOf Representation.ofName?)))
  let filters := both display (optional fields "filters" none (nullable (items filterEntry)))
  let sortBy := both filters
    (optionalUnder fields "sortBy" "sort_by" none (nullable (items (items text))))
  let columns := both sortBy (optional fields "columns" none (nullable (items text)))
  let groupBy := both columns (optionalUnder fields "groupBy" "group_by" none (nullable text))
  both groupBy (optional fields "show_sums" none (nullable truth))

/-- Replaces a part if the change has one. -/
def replace {Part : Type} (part : Option Part) (query : Query)
    (set : Query → Part → Checked Query) : Checked Query :=
  match part with
  | some part => set query part
  | none => .ok query

/-- The query with the parts of the change replaced. Grouping by an empty name means none. -/
def apply (change : Change) (query : Query) : Checked Query := do
  let query ← replace change.visibility query fun query visibility =>
    .ok (query.withVisibility visibility)
  let query ← replace change.display query fun query display => .ok (query.withDisplay display)
  let query ← replace change.filters query fun query filters =>
    (parseFilters (.list filters)).map query.withFilters
  let query ← replace change.sortBy query fun query criteria =>
    (sortsOf criteria).map query.withSorts
  let query ← replace change.columns query fun query names =>
    (columnsOf names).map query.withColumns
  let query ← replace change.groupBy query fun query property =>
    .ok (query.withGrouping (if property = "" then .none else .single property))
  let query ← replace change.name query fun query name => .ok { query with name }
  replace change.showSums query fun query showSums => .ok { query with showSums }

end Change

end WorkQuery.Service
