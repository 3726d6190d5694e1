/-
This file holds queries: what a list of work packages shows, in which order, and how. A query names
no user in place of the requester, so that one query serves every requester. The changes offered
here replace one part and leave the others; only a change of the display touches a second part,
since a chart over time needs its timeline.
-/

import WorkQuery.Column.Set
import WorkQuery.Filter.Basic
import WorkQuery.Sort.Order

namespace WorkQuery

open Json Schema Text

/-! ### Choices -/

/-- Who may see a saved query beside its owner. -/
inductive Visibility
  | own
  | everyone
  | global
deriving DecidableEq, Repr

namespace Visibility

/-- The name of a visibility. -/
def name : Visibility → String
  | own => "private"
  | everyone => "public"
  | global => "global"

/-- The visibility of a name. -/
def ofName? (name : String) : Option Visibility :=
  [own, everyone, global].find? fun visibility => visibility.name == name

/-- Whether others than the owner may see the query. -/
def isShared : Visibility → Bool
  | own => false
  | everyone => true
  | global => true

end Visibility

/-- How a list of work packages is shown. -/
inductive Representation
  | list
  | board
  | gantt
  | calendar
  | teamPlanner
deriving DecidableEq, Repr

namespace Representation

/-- The name of a representation. -/
def name : Representation → String
  | list => "list"
  | board => "board"
  | gantt => "gantt"
  | calendar => "calendar"
  | teamPlanner => "team_planner"

/-- The representation of a name. -/
def ofName? (name : String) : Option Representation :=
  [list, board, gantt, calendar, teamPlanner].find? fun representation =>
    representation.name == name

/-- The representation that a word means, in any case and with blanks around it; three have a
second word. -/
def parse? (word : String) : Option Representation :=
  match keyword word with
  | "table" => some list
  | "cards" => some board
  | "teamplanner" => some teamPlanner
  | name => ofName? name

/-- The representation that a value means, if it is a word that means one. -/
def ofWord (value : Value) : Checked (Option Representation) :=
  (looseTextFor "strip" value).map parse?

end Representation

/-- How much time one step of a timeline covers. -/
inductive ZoomLevel
  | days
  | weeks
  | months
  | quarters
  | years
  | auto
deriving DecidableEq, Repr

namespace ZoomLevel

/-- The name of a zoom level. -/
def name : ZoomLevel → String
  | days => "days"
  | weeks => "weeks"
  | months => "months"
  | quarters => "quarters"
  | years => "years"
  | auto => "auto"

/-- The zoom level of a name. -/
def ofName? (name : String) : Option ZoomLevel :=
  [days, weeks, months, quarters, years, auto].find? fun level => level.name == name

end ZoomLevel

/-- What the highlighting of a list goes by. -/
inductive HighlightMode
  | none
  | inline
  | status
  | priority
  | type
deriving DecidableEq, Repr

namespace HighlightMode

/-- The name of a highlighting mode. -/
def name : HighlightMode → String
  | .none => "none"
  | .inline => "inline"
  | .status => "status"
  | .priority => "priority"
  | .type => "type"

/-- The highlighting mode of a name. -/
def ofName? (name : String) : Option HighlightMode :=
  [.none, .inline, .status, .priority, .type].find? fun mode => mode.name == name

end HighlightMode

/-! ### Parts -/

/-- The property that a list is grouped by, if any, and whether its groups start out folded. -/
structure Grouping where
  property : Option String
  collapsed : Bool
deriving DecidableEq, Repr

namespace Grouping

/-- No grouping. -/
def none : Grouping := ⟨.none, false⟩

/-- Grouping by a property. -/
def single (property : String) : Grouping := ⟨some property, false⟩

/-- Whether a list is grouped at all. -/
def isGrouped (grouping : Grouping) : Bool :=
  grouping.property.isSome

/-- A grouping of a query document. -/
def ofValue (value : Value) : Checked Grouping := do
  let fields ← record value
  both ((optional fields "attribute" .none (nullable Schema.text)).map Grouping.mk)
    (optional fields "collapsed" false truth)

/-- A grouping in a query document. -/
def toValue (grouping : Grouping) : Value :=
  .object [("attribute", .ofOption .text grouping.property),
    ("collapsed", .bool grouping.collapsed)]

end Grouping

/-- What is highlighted in a list. -/
structure Highlighting where
  mode : HighlightMode
  properties : List String
deriving DecidableEq, Repr

namespace Highlighting

/-- No highlighting. -/
def none : Highlighting := ⟨.none, []⟩

/-- A highlighting of a query document. -/
def ofValue (value : Value) : Checked Highlighting := do
  let fields ← record value
  both ((optional fields "mode" .none (memberOf HighlightMode.ofName?)).map Highlighting.mk)
    (optional fields "highlighted_attributes" [] (items Schema.text))

/-- A highlighting in a query document. -/
def toValue (highlighting : Highlighting) : Value :=
  .object [("mode", .text highlighting.mode.name),
    ("highlighted_attributes", .texts highlighting.properties)]

end Highlighting

/-! ### Queries -/

/-- A query for work packages. -/
structure Query where
  id : Option Int
  name : String
  userId : Option Int
  projectId : Option Int
  visibility : Visibility
  starred : Bool
  display : Representation
  filters : FilterSet
  sorts : SortOrder
  columns : ColumnSet
  grouping : Grouping
  highlighting : Highlighting
  zoom : ZoomLevel
  showTimeline : Bool
  includeSubprojects : Bool
  showHierarchies : Bool
  showSums : Bool
deriving DecidableEq

namespace Query

/-- The query that shows everything in the usual way, under a name. -/
def plain (name : String) : Query where
  id := none
  name := name
  userId := none
  projectId := none
  visibility := .own
  starred := false
  display := .list
  filters := .empty
  sorts := .standard
  columns := .standard
  grouping := .none
  highlighting := .none
  zoom := .weeks
  showTimeline := false
  includeSubprojects := true
  showHierarchies := true
  showSums := false

/-! ### Predicates -/

/-- Whether the query is saved. -/
def isSaved (query : Query) : Bool := query.id.isSome

/-- Whether the query belongs to no project. -/
def isGlobal (query : Query) : Bool := query.projectId.isNone

/-- Whether the query is public. -/
def isPublic (query : Query) : Bool := query.visibility == .everyone

/-- Whether the query filters at all. -/
def hasFilters (query : Query) : Bool := !query.filters.isEmpty

/-- Whether the query asks for an order. -/
def hasCustomSort (query : Query) : Bool := !query.sorts.isEmpty

/-- Whether the query groups its list. -/
def isGrouped (query : Query) : Bool := query.grouping.isGrouped

/-- Whether the list shows which work packages are parts of others; groups leave no room for it. -/
def isHierarchical (query : Query) : Bool := query.showHierarchies && !query.isGrouped

/-! ### Changes -/

/-- The query with an identifier. -/
def withId (query : Query) (id : Int) : Query := { query with id := some id }

/-- The query with an owner. -/
def withUser (query : Query) (userId : Int) : Query := { query with userId := some userId }

/-- The query with a visibility. -/
def withVisibility (query : Query) (visibility : Visibility) : Query :=
  { query with visibility }

/-- The query with a representation. A chart over time turns the timeline on, and no other
representation turns it off. -/
def withDisplay (query : Query) (display : Representation) : Query :=
  { query with display, showTimeline := query.showTimeline || display == .gantt }

/-- The query with one more filter. -/
def withFilter (query : Query) (filter : Filter) : Query :=
  { query with filters := query.filters.add filter }

/-- The query with other filters. -/
def withFilters (query : Query) (filters : FilterSet) : Query := { query with filters }

/-- The query with another order. -/
def withSorts (query : Query) (sorts : SortOrder) : Query := { query with sorts }

/-- The query with other columns. -/
def withColumns (query : Query) (columns : ColumnSet) : Query := { query with columns }

/-- The query with another grouping. -/
def withGrouping (query : Query) (grouping : Grouping) : Query := { query with grouping }

/-- The query with its star set or not. -/
def withStar (query : Query) (starred : Bool) : Query := { query with starred }

end Query

end WorkQuery
