/-
This file runs queries. The conditions of a query select rows of the joined tables; the selected
rows are counted, sorted and cut to a page. A store without tables fails, and so does a query with
a condition that the store cannot run, whatever the tables hold.
-/

import WorkQuery.Sql.Preparation
import WorkQuery.Table.Evaluation
import WorkQuery.Table.Page

namespace WorkQuery

open Calendar Sql

/-- What stands behind the queries: the tables, none if the store has lost them, and today. -/
structure Database where
  tables : Option Tables
  today : Date

namespace Database

/-- The rows of the tables that conditions select. -/
def matching (tables : Tables) (today : Date) (conditions : List Condition) : List JoinedRow :=
  (joinedRows tables).filter (selects today conditions)

/-- The page of the work packages that a query selects for a requester. -/
def run (database : Database) (query : Query) (request : PageRequest) (user : Option Int) :
    Except Failure (Page WorkPackage) :=
  let selection := select query user
  match fault? selection.conditions selection.keys, database.tables with
  | some failure, _ => .error failure
  | none, none => .error .database
  | none, some tables =>
    let rows := matching tables database.today selection.conditions
    let sorted := sortRows selection.keys rows
    let cut := (sorted.drop request.offset.toNat).take request.limit.toNat
    .ok ⟨cut.map JoinedRow.item, rows.length, request⟩

end Database

end WorkQuery
