/-
This file holds query documents: the full JSON form of a query, one member for each of its parts.
A document may leave any part out, and whatever is wrong with it is counted. Documents arrive as
JSON values or as text.
-/

import WorkQuery.Json.Reader
import WorkQuery.Query.Basic

namespace WorkQuery.Query

open Json Schema

/-! ### Writing -/

/-- The document of a query. -/
def toValue (query : Query) : Value :=
  .object [
    ("id", .ofOption .int query.id),
    ("name", .text query.name),
    ("user_id", .ofOption .int query.userId),
    ("project_id", .ofOption .int query.projectId),
    ("visibility", .text query.visibility.name),
    ("starred", .bool query.starred),
    ("display", .text query.display.name),
    ("filters", query.filters.toValue),
    ("sorts", query.sorts.toValue),
    ("columns", query.columns.toValue),
    ("group_by", query.grouping.toValue),
    ("highlighting", query.highlighting.toValue),
    ("timeline_zoom_level", .text query.zoom.name),
    ("show_timeline", .bool query.showTimeline),
    ("include_subprojects", .bool query.includeSubprojects),
    ("show_hierarchies", .bool query.showHierarchies),
    ("show_sums", .bool query.showSums)]

/-! ### Reading -/

/-- The query of a document, with every issue at its place. -/
def ofValue (value : Value) : Checked Query := do
  let fields ← record value
  let id := (optional fields "id" none (nullable integer)).map Query.mk
  let name := both id (optional fields "name" "Unnamed query" Schema.text)
  let userId := both name (optional fields "user_id" none (nullable integer))
  let projectId := both userId (optional fields "project_id" none (nullable integer))
  let visibility := both projectId
    (optional fields "visibility" .own (memberOf Visibility.ofName?))
  let starred := both visibility (optional fields "starred" false truth)
  let display := both starred
    (optional fields "display" .list (memberOf Representation.ofName?))
  let filters := both display (optional fields "filters" .empty FilterSet.ofValue)
  let sorts := both filters (optional fields "sorts" .standard SortOrder.ofValue)
  let columns := both sorts (optional fields "columns" .standard ColumnSet.ofValue)
  let grouping := both columns (optional fields "group_by" .none Grouping.ofValue)
  let highlighting := both grouping (optional fields "highlighting" .none Highlighting.ofValue)
  let zoom := both highlighting
    (optional fields "timeline_zoom_level" .weeks (memberOf ZoomLevel.ofName?))
  let showTimeline := both zoom (optional fields "show_timeline" false truth)
  let includeSubprojects := both showTimeline (optional fields "include_subprojects" true truth)
  let showHierarchies := both includeSubprojects (optional fields "show_hierarchies" true truth)
  both showHierarchies (optional fields "show_sums" false truth)

/-- The issues of a document as one refusal that counts them. -/
def counted (outcome : Checked Query) : Checked Query :=
  match outcome with
  | .error (.invalid issues) => .error (.parse (.document issues.length))
  | outcome => outcome

/-- The query of a document that arrives as text. -/
def ofText (text : String) : Checked Query :=
  if Text.holdsHalf text then counted (reject .textHalf)
  else
    match Json.read .document text with
    | .ok value => counted (ofValue value)
    | .error _ => counted (reject .malformedJson)

/-- The query of a document that arrives as a value; a text is a document in text form. -/
def ofDocument : Value → Checked Query
  | .text text => ofText text
  | value => counted (ofValue value)

end WorkQuery.Query
