/-
This file holds the joins that every statement reads. Each work package is read together with the
rows of the lookup tables that belong to it, and it is kept where there is none: its status, its
type, and its priority, which is an entry of one enumeration among others. A join is given by its
lookup table and the tests that a row has to pass; both the text of a join and the rows that it
gives are made from these.
-/

import WorkQuery.Sql.Literal
import WorkQuery.Sql.Reference

namespace WorkQuery.Sql

/-- A test of a join. -/
inductive JoinTest
  /-- The field of the work package holds the number of the row. -/
  | key (field : Field)
  /-- The row belongs to the enumeration. -/
  | family (name : String)
deriving DecidableEq, Repr

/-- A test of a row of a lookup table, as statements write it. -/
def JoinTest.render (lookup : Lookup) : JoinTest → String
  | key field => "wp." ++ field.name ++ " = " ++ lookup.column "id"
  | family name => lookup.column "type" ++ " = " ++ quote name

/-- A join of the work packages with those rows of a lookup table that pass all tests. -/
structure Join where
  lookup : Lookup
  tests : List JoinTest
deriving DecidableEq, Repr

/-- A join as statements write it. -/
def Join.render (join : Join) : String :=
  "LEFT JOIN " ++ join.lookup.name ++ " " ++ join.lookup.letter ++ " ON " ++
    " AND ".intercalate (join.tests.map (JoinTest.render join.lookup))

/-- The join of a work package with its status. -/
def statusJoin : Join := ⟨.statuses, [.key .statusId]⟩

/-- The join of a work package with its type. -/
def typeJoin : Join := ⟨.types, [.key .typeId]⟩

/-- The join of a work package with its priority. -/
def priorityJoin : Join := ⟨.enumerations, [.key .priorityId, .family priorityFamily]⟩

/-- The joins of every statement, in their order. -/
def joins : List Join := [statusJoin, typeJoin, priorityJoin]

end WorkQuery.Sql
