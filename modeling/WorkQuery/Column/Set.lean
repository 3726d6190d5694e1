/-
This file holds column sets: the columns of a list, from left to right. A name may occur more than
once. Reordering only permutes: the named columns come first, the others keep their order behind
them.
-/

import WorkQuery.Column.Basic

namespace WorkQuery

open Json Schema

/-- Columns, from left to right. -/
structure ColumnSet where
  columns : List Column
deriving DecidableEq, Repr

namespace ColumnSet

/-! ### Making sets -/

/-- The set without columns. -/
def empty : ColumnSet := ⟨[]⟩

/-- The columns that a list shows by default. -/
def standard : ColumnSet := ⟨Column.defaultNames.filterMap Column.standard?⟩

/-- The columns that stored names stand for. -/
def ofNames (names : List String) : Except ConversionFault ColumnSet :=
  (names.mapM Column.ofName).map ColumnSet.mk

/-- The columns of stored names that are given as any values. -/
def ofNameValues (names : Value) : Checked ColumnSet := do
  let names ← elements names
  let columns ← names.mapM Column.ofNameValue
  return ⟨columns⟩

/-! ### Operations -/

/-- The set with one more column at its end. -/
def add (set : ColumnSet) (column : Column) : ColumnSet :=
  ⟨set.columns ++ [column]⟩

/-- The names of the columns. -/
def names (set : ColumnSet) : List String :=
  set.columns.map Column.name

/-- Whether a column has a name. -/
def hasColumn (set : ColumnSet) (name : String) : Bool :=
  set.columns.any fun column => column.name == name

/-- The set without the columns of a name. -/
def remove (set : ColumnSet) (name : String) : ColumnSet :=
  ⟨set.columns.filter fun column => column.name != name⟩

/-- The columns that can be sorted by. -/
def sortableColumns (set : ColumnSet) : List Column :=
  set.columns.filter Column.sortable

/-- The columns that can be grouped by. -/
def groupableColumns (set : ColumnSet) : List Column :=
  set.columns.filter Column.groupable

/-- Whether there are no columns. -/
def isEmpty (set : ColumnSet) : Bool :=
  set.columns.isEmpty

/-- The number of columns. -/
def size (set : ColumnSet) : Nat :=
  set.columns.length

/-! ### Reordering -/

/-- The first column of a name, and the columns without it. -/
def takeNamed? (name : String) : List Column → Option (Column × List Column)
  | [] => none
  | column :: columns =>
    if column.name = name then some (column, columns)
    else (takeNamed? name columns).map fun (found, rest) => (found, column :: rest)

/-- The columns taken by a list of names, each name taking the first column of its name that is
left, and the columns that are left at the end. -/
def pick : List String → List Column → List Column × List Column
  | [], columns => ([], columns)
  | name :: names, columns =>
    match takeNamed? name columns with
    | some (found, rest) =>
      let (chosen, left) := pick names rest
      (found :: chosen, left)
    | none => pick names columns

/-- The columns with the named ones in front. -/
def reorder (set : ColumnSet) (names : List String) : ColumnSet :=
  let (chosen, left) := pick names set.columns
  ⟨chosen ++ left⟩

/-! ### Schema -/

/-- The columns of a query document. -/
def ofValue (value : Value) : Checked ColumnSet := do
  let fields ← record value
  (optional fields "columns" [] (items Column.ofValue)).map ColumnSet.mk

/-- Columns in a query document. -/
def toValue (set : ColumnSet) : Value :=
  .object [("columns", .list (set.columns.map Column.toValue))]

end ColumnSet

end WorkQuery
