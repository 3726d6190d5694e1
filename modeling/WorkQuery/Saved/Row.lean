/-
This file holds saved queries as rows. A row keeps filters and sort order in their compact forms
and columns as names, so reading a row means reading those forms again. A raw row may hold any
value in any field; a saved row is one that the library itself has written.
-/

import WorkQuery.CompactForm.Filters
import WorkQuery.CompactForm.Sorts
import WorkQuery.Query.Basic

namespace WorkQuery

open CompactForm Json Schema

/-! ### Raw rows -/

/-- A row of saved queries, with any value in its fields. -/
structure RawRow where
  id : Value
  name : Value
  userId : Value
  projectId : Value
  visibility : Value
  starred : Value
  display : Value
  filters : Value
  sortCriteria : Value
  columnNames : Value
  groupBy : Value
  groupCollapsed : Value
  highlightingMode : Value
  highlightedProperties : Value
  zoom : Value
  showTimeline : Value
  includeSubprojects : Value
  showHierarchies : Value
  showSums : Value

namespace RawRow

/-- The member of a family that a stored name stands for. -/
def familyMember {Content : Type} (family : String) (ofName? : String → Option Content)
    (value : Value) : Checked Content :=
  match value.text?.bind ofName? with
  | some member => .ok member
  | none => do
    let shown ← value.display.mapError .ofShowFault
    .error (.notMember shown family)

/-- The representation of a stored word; a list where the word means nothing. -/
def representation (value : Value) : Checked Representation :=
  (Representation.ofWord value).map (·.getD .list)

/-- A stored list that may be missing. -/
def orEmpty (value : Value) : Value :=
  if value.isVoid then .list [] else value

/-- Whether a stored value counts as true. -/
def flag (value : Value) : Bool := !value.isVoid

/-- The columns of stored names, or the standard ones if no names are stored. -/
def storedColumns : Value → Checked ColumnSet
  | .null => .ok .standard
  | names => ColumnSet.ofNameValues names

/-- The highlighting of a stored mode and stored properties. -/
def storedHighlighting (mode properties : Value) : Checked Highlighting := do
  let mode ← familyMember "HighlightingMode" HighlightMode.ofName? mode
  let properties ← elements (orEmpty properties)
  let properties ← within (.field "highlighted_attributes") (readItems text 0 properties)
  return ⟨mode, properties⟩

/-- The query of a row. Its parts are read one after the other, and the first that fails decides;
the name and the three numbers come last and are checked together. -/
def toQuery (row : RawRow) : Checked Query := do
  let visibility ← familyMember "QueryVisibility" Visibility.ofName? row.visibility
  let display ← representation row.display
  let filters ← parseFilters (orEmpty row.filters)
  let sorts ← parseSorts (orEmpty row.sortCriteria)
  let columns ← storedColumns row.columnNames
  let property ← within (.field "attribute") (nullable text row.groupBy)
  let highlighting ← storedHighlighting row.highlightingMode row.highlightedProperties
  let zoom ← familyMember "TimelineZoomLevel" ZoomLevel.ofName? row.zoom
  let id := (within (.field "id") (nullable integer row.id)).map Query.mk
  let name := both id (within (.field "name") (text row.name))
  let userId := both name (within (.field "user_id") (nullable integer row.userId))
  let make ← both userId (within (.field "project_id") (nullable integer row.projectId))
  return make visibility (flag row.starred) display filters sorts columns
    ⟨property, flag row.groupCollapsed⟩ highlighting zoom (flag row.showTimeline)
    (flag row.includeSubprojects) (flag row.showHierarchies) (flag row.showSums)

end RawRow

/-! ### Saved rows -/

/-- What a row keeps of a query, the row's own number and owner aside. -/
structure SavedContent where
  name : String
  projectId : Option Int
  visibility : String
  starred : Bool
  display : String
  filters : Value
  sortCriteria : Value
  columnNames : List String
  groupBy : Option String
  groupCollapsed : Bool
  highlightingMode : String
  highlightedProperties : List String
  zoom : String
  showTimeline : Bool
  includeSubprojects : Bool
  showHierarchies : Bool
  showSums : Bool

/-- A saved query. The times at which the row was made and last written are left out: the clock of
the store sets them, no request gives them, and no condition or order looks at them. -/
structure SavedRow where
  id : Int
  userId : Int
  content : SavedContent

namespace SavedContent

/-- What a row keeps of a query. -/
def ofQuery (query : Query) : SavedContent where
  name := query.name
  projectId := query.projectId
  visibility := query.visibility.name
  starred := query.starred
  display := query.display.name
  filters := filtersValue query.filters
  sortCriteria := sortsValue query.sorts
  columnNames := query.columns.names
  groupBy := query.grouping.property
  groupCollapsed := query.grouping.collapsed
  highlightingMode := query.highlighting.mode.name
  highlightedProperties := query.highlighting.properties
  zoom := query.zoom.name
  showTimeline := query.showTimeline
  includeSubprojects := query.includeSubprojects
  showHierarchies := query.showHierarchies
  showSums := query.showSums

/-- The fields of a row, each under its name. -/
def toValue (content : SavedContent) : Value :=
  .object [
    ("name", .text content.name),
    ("project_id", .ofOption .int content.projectId),
    ("visibility", .text content.visibility),
    ("starred", .bool content.starred),
    ("display", .text content.display),
    ("filters", content.filters),
    ("sort_criteria", content.sortCriteria),
    ("column_names", .texts content.columnNames),
    ("group_by", .ofOption .text content.groupBy),
    ("group_collapsed", .bool content.groupCollapsed),
    ("highlighting_mode", .text content.highlightingMode),
    ("highlighted_attributes", .texts content.highlightedProperties),
    ("timeline_zoom_level", .text content.zoom),
    ("show_timeline", .bool content.showTimeline),
    ("include_subprojects", .bool content.includeSubprojects),
    ("show_hierarchies", .bool content.showHierarchies),
    ("show_sums", .bool content.showSums)]

end SavedContent

namespace SavedRow

/-- A saved row as a raw one. -/
def raw (row : SavedRow) : RawRow where
  id := .int row.id
  name := .text row.content.name
  userId := .int row.userId
  projectId := .ofOption .int row.content.projectId
  visibility := .text row.content.visibility
  starred := .bool row.content.starred
  display := .text row.content.display
  filters := row.content.filters
  sortCriteria := row.content.sortCriteria
  columnNames := .texts row.content.columnNames
  groupBy := .ofOption .text row.content.groupBy
  groupCollapsed := .bool row.content.groupCollapsed
  highlightingMode := .text row.content.highlightingMode
  highlightedProperties := .texts row.content.highlightedProperties
  zoom := .text row.content.zoom
  showTimeline := .bool row.content.showTimeline
  includeSubprojects := .bool row.content.includeSubprojects
  showHierarchies := .bool row.content.showHierarchies
  showSums := .bool row.content.showSums

/-- The query of a saved row. -/
def toQuery (row : SavedRow) : Checked Query :=
  row.raw.toQuery

/-- The row with what it keeps replaced; its number and its owner stay. -/
def update (row : SavedRow) (query : Query) : SavedRow :=
  { row with content := .ofQuery query }

/-- The row with its star set or not. -/
def withStar (row : SavedRow) (starred : Bool) : SavedRow :=
  { row with content := { row.content with starred } }

@[simp] theorem id_update (row : SavedRow) (query : Query) : (row.update query).id = row.id := rfl

end SavedRow

end WorkQuery
