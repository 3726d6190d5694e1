/-
This file holds the builder, which puts a query together edit by edit. Edits that hold a filter, a
criterion, a grouping or a highlighting check it at once, and a failing edit changes nothing more;
the name, the project, the user and the zoom level are taken as given and checked when the query is
built. A built query shows its timeline exactly when it is a chart over time.
-/

import WorkQuery.Query.Basic

namespace WorkQuery

open Json Number Schema

/-- A query in the making. -/
structure Builder where
  id : Option Int
  name : Value
  userId : Value
  projectId : Value
  visibility : Visibility
  starred : Bool
  display : Representation
  filters : FilterSet
  sorts : SortOrder
  columns : ColumnSet
  grouping : Grouping
  highlighting : Highlighting
  zoom : Value
  includeSubprojects : Bool
  showHierarchies : Bool
  showSums : Bool

/-- One edit of a query in the making. -/
inductive Edit
  | name (name : Value)
  | project (id : Value)
  | user (id : Value)
  | visibility (visibility : Visibility)
  | star
  | display (display : Representation)
  | highlight (mode properties : Value)
  | zoom (level : Value)
  | filter (filter : Filter)
  | oneOf (property : String) (ids : Value)
  | only (property : String) (id : Value)
  | inProject (id : Value)
  | subjectContains (text : Value)
  | sorts (sorts : SortOrder)
  | sortBy (property : Value) (direction : Direction)
  | thenBy (property : Value) (direction : Direction)
  | columns (columns : ColumnSet)
  | addColumn (column : Column)
  | addProperty (name : Value)
  | group (property collapsed : Value)
  | ungroup
  | subprojects (included : Bool)
  | hierarchies (shown : Bool)
  | sums

namespace Edit

/-! ### Edits for common questions -/

/-- Keep the work packages whose status is open. -/
def onlyOpen : Edit := .filter (.equals "status_is_closed" (.truth false))

/-- Keep the work packages whose status is closed. -/
def onlyClosed : Edit := .filter (.equals "status_is_closed" (.truth true))

/-- Keep the work packages assigned to the requester. -/
def assignedToMe : Edit := .filter (.currentUser "assigned_to_id")

/-- Keep the work packages assigned to nobody. -/
def unassigned : Edit := .filter (.isNull "assigned_to_id")

/-- Keep the work packages written by the requester. -/
def createdByMe : Edit := .filter (.currentUser "author_id")

/-- Keep the work packages that are part of no other. -/
def rootsOnly : Edit := .filter (.isNull "parent_id")

/-- Keep the work packages due today. -/
def dueToday : Edit := .filter ⟨"due_date", .fixed .today, .absent⟩

/-- Keep the work packages due this week. -/
def dueThisWeek : Edit := .filter ⟨"due_date", .fixed .thisWeek, .absent⟩

/-- Keep the work packages that were due before today. -/
def overdue : Edit :=
  .filter ⟨"due_date", .relative .moreThanDaysAgo 0, .number (.zero false)⟩

/-- Sort by a known property. -/
def sortByName (property : String) (direction : Direction) : Edit :=
  .sortBy (.text property) direction

/-- Group by a known property. -/
def groupByName (property : String) : Edit :=
  .group (.text property) (.bool false)

end Edit

namespace Builder

/-! ### Beginnings -/

/-- The builder of a query that shows everything in the usual way. -/
def initial : Builder where
  id := none
  name := .text "New Query"
  userId := .null
  projectId := .null
  visibility := .own
  starred := false
  display := .list
  filters := .empty
  sorts := .standard
  columns := .standard
  grouping := .none
  highlighting := .none
  zoom := .text ZoomLevel.weeks.name
  includeSubprojects := true
  showHierarchies := true
  showSums := false

/-- The builder that starts from a query. -/
def ofQuery (query : Query) : Builder where
  id := query.id
  name := .text query.name
  userId := .ofOption .int query.userId
  projectId := .ofOption .int query.projectId
  visibility := query.visibility
  starred := query.starred
  display := query.display
  filters := query.filters
  sorts := query.sorts
  columns := query.columns
  grouping := query.grouping
  highlighting := query.highlighting
  zoom := .text query.zoom.name
  includeSubprojects := query.includeSubprojects
  showHierarchies := query.showHierarchies
  showSums := query.showSums

/-! ### Edits -/

/-- The builder with one more filter. -/
def addFilter (builder : Builder) (filter : Filter) : Builder :=
  { builder with filters := builder.filters.add filter }

/-- A criterion whose property is given as any value. -/
def criterion (property : Value) (direction : Direction) : Checked SortCriterion :=
  (within (.field "attribute") (Schema.text property)).map fun property => ⟨property, direction⟩

/-- A highlighting whose parts are given as any values. -/
def highlighting? (mode properties : Value) : Checked Highlighting := do
  let properties ← elements properties
  Highlighting.ofValue (.object [("mode", mode), ("highlighted_attributes", .list properties)])

/-- A grouping whose parts are given as any values. -/
def grouping? (property collapsed : Value) : Checked Grouping :=
  Grouping.ofValue (.object [("attribute", property), ("collapsed", collapsed)])

/-- The filter that keeps a property equal to one identifier. -/
def onlyFilter (property : String) (id : Value) : Checked Filter :=
  (within (.field "value") (integer id)).map fun id => .equals property (.id id)

/-- The builder after an edit; a failing edit has no builder. -/
def change (builder : Builder) : Edit → Checked Builder
  | .name name => .ok { builder with name }
  | .project id => .ok { builder with projectId := id }
  | .user id => .ok { builder with userId := id }
  | .visibility visibility => .ok { builder with visibility }
  | .star => .ok { builder with starred := true }
  | .display display => .ok { builder with display }
  | .highlight mode properties =>
    (highlighting? mode properties).map fun highlighting => { builder with highlighting }
  | .zoom level => .ok { builder with zoom := level }
  | .filter filter => .ok (builder.addFilter filter)
  | .oneOf property ids =>
    (FilterValue.ofIdValues ids).map fun value => builder.addFilter (.equals property value)
  | .only property id => (onlyFilter property id).map builder.addFilter
  | .inProject id =>
    (onlyFilter "project_id" id).map fun filter =>
      { builder with projectId := id }.addFilter filter
  | .subjectContains text =>
    (within (.field "value") (Schema.text text)).map fun text =>
      builder.addFilter (.contains "subject" text)
  | .sorts sorts => .ok { builder with sorts }
  | .sortBy property direction =>
    (criterion property direction).map fun criterion => { builder with sorts := ⟨[criterion]⟩ }
  | .thenBy property direction =>
    (criterion property direction).map fun criterion =>
      { builder with sorts := builder.sorts.add criterion }
  | .columns columns => .ok { builder with columns }
  | .addColumn column => .ok { builder with columns := builder.columns.add column }
  | .addProperty name =>
    (Column.named .ofProperty name).map fun column =>
      { builder with columns := builder.columns.add column }
  | .group property collapsed =>
    (grouping? property collapsed).map fun grouping => { builder with grouping }
  | .ungroup => .ok { builder with grouping := .none }
  | .subprojects included => .ok { builder with includeSubprojects := included }
  | .hierarchies shown => .ok { builder with showHierarchies := shown }
  | .sums => .ok { builder with showSums := true }

/-- The builder that is left when an edit fails. Nothing is changed, except that a project that is
asked for stays asked for although no filter on it can be made. -/
def afterFailure (builder : Builder) : Edit → Builder
  | .inProject id => { builder with projectId := id }
  | _ => builder

/-- The builder after an edit, and the failure if the edit failed. -/
def apply (builder : Builder) (edit : Edit) : Builder × Option Failure :=
  match builder.change edit with
  | .ok changed => (changed, none)
  | .error failure => (builder.afterFailure edit, some failure)

/-- The builder after all edits of a list, each of which has to succeed. -/
def changes (builder : Builder) (edits : List Edit) : Checked Builder :=
  edits.foldlM change builder

/-! ### Building -/

/-- The query that is built. -/
def build (builder : Builder) : Checked Query :=
  let name := (within (.field "name") (Schema.text builder.name)).map (Query.mk builder.id)
  let userId := both name (within (.field "user_id") (nullable integer builder.userId))
  let projectId := both userId (within (.field "project_id") (nullable integer builder.projectId))
  let zoom := within (.field "timeline_zoom_level") (memberOf ZoomLevel.ofName? builder.zoom)
  let parts := projectId.map fun make =>
    make builder.visibility builder.starred builder.display builder.filters builder.sorts
      builder.columns builder.grouping builder.highlighting
  (both parts zoom).map fun make =>
    make (builder.display == .gantt) builder.includeSubprojects builder.showHierarchies
      builder.showSums

end Builder

end WorkQuery
