/-
This file holds the queries that every requester is offered. Each is a list of edits of the usual
query. The filter on watchers has no column to compare with yet, so it is left out when the query
is run.
-/

import WorkQuery.Query.Builder

namespace WorkQuery

open Json Schema

/-- The queries on offer. -/
inductive Preset
  | myWorkPackages
  | createdByMe
  | watchedByMe
  | allOpen
  | recentlyUpdated
  | basicBoard
  | ganttChart
  | overdue
deriving DecidableEq, Repr

namespace Preset

/-- Every query on offer. -/
def all : List Preset :=
  [myWorkPackages, createdByMe, watchedByMe, allOpen, recentlyUpdated, basicBoard, ganttChart,
   overdue]

/-- The key of a query on offer. -/
def name : Preset → String
  | myWorkPackages => "my_work_packages"
  | createdByMe => "created_by_me"
  | watchedByMe => "watched_by_me"
  | allOpen => "all_open"
  | recentlyUpdated => "recently_updated"
  | basicBoard => "basic_board"
  | ganttChart => "gantt_chart"
  | overdue => "overdue"

/-- The query on offer under a key. -/
def ofName? (name : String) : Option Preset :=
  all.find? fun preset => preset.name == name

/-- The query on offer under a key that is given as any value. -/
def ofKey : Value → Checked Preset
  | .list _ => .error (.notKey "list")
  | .object _ => .error (.notKey "dict")
  | key =>
    match key.text?.bind ofName? with
    | some preset => .ok preset
    | none => .error (.unknownKey key)

/-- The name that a query on offer is shown with. -/
def title : Preset → String
  | myWorkPackages => "My work packages"
  | createdByMe => "Created by me"
  | watchedByMe => "Watched"
  | allOpen => "All open"
  | recentlyUpdated => "Recently updated"
  | basicBoard => "Basic board"
  | ganttChart => "Gantt chart"
  | overdue => "Overdue"

/-- The edit that shows the latest changes first. -/
def latestFirst : Edit := .sortByName "updated_at" .descending

/-- What a query on offer changes about the usual query, its name aside. -/
def edits : Preset → List Edit
  | myWorkPackages => [.assignedToMe, .onlyOpen, latestFirst]
  | createdByMe => [.createdByMe, latestFirst]
  | watchedByMe => [.filter (.currentUser "watcher_id"), latestFirst]
  | allOpen => [.onlyOpen, latestFirst]
  | recentlyUpdated => [latestFirst]
  | basicBoard => [.display .board, .groupByName "status", .onlyOpen]
  | ganttChart =>
    [.display .gantt, .sortByName "start_date" .ascending,
     .thenBy (.text "due_date") .ascending]
  | overdue => [.overdue, .onlyOpen, .sortByName "due_date" .ascending]

/-- A query on offer. -/
def query (preset : Preset) : Checked Query := do
  let builder ← Builder.initial.changes (.name (.text preset.title) :: preset.edits)
  builder.build

end Preset

end WorkQuery
