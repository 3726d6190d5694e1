/-
This file holds the columns that statements refer to: the fields of a work package and the fields
of the lookup rows joined to it. Filters and sort orders name properties; a property without a
column has no effect. Where a filter compares the name of a lookup row, a sort order uses its
position.
-/

import WorkQuery.Table.Rows

namespace WorkQuery.Sql

/-! ### Lookup tables -/

/-- A lookup table. -/
inductive Lookup
  | statuses
  | types
  | enumerations
deriving DecidableEq, Repr

namespace Lookup

/-- Every lookup table. -/
def all : List Lookup := [statuses, types, enumerations]

/-- The name of a lookup table. -/
def name : Lookup → String
  | statuses => "statuses"
  | types => "types"
  | enumerations => "enumerations"

/-- The letter that stands for a joined row of the table. -/
def letter : Lookup → String
  | statuses => "s"
  | types => "t"
  | enumerations => "p"

/-- A column of a joined row, as statements write it. -/
def column (lookup : Lookup) (name : String) : String :=
  lookup.letter ++ "." ++ name

end Lookup

/-! ### Columns -/

/-- A column of the joined tables. -/
inductive Reference
  | item (field : Field)
  | statusName
  | statusIsClosed
  | statusPosition
  | typeName
  | typePosition
  | priorityName
  | priorityPosition
deriving DecidableEq, Repr

namespace Reference

/-- A column as statements write it. -/
def text : Reference → String
  | item field => "wp." ++ field.name
  | statusName => Lookup.statuses.column "name"
  | statusIsClosed => Lookup.statuses.column "is_closed"
  | statusPosition => Lookup.statuses.column "position"
  | typeName => Lookup.types.column "name"
  | typePosition => Lookup.types.column "position"
  | priorityName => Lookup.enumerations.column "name"
  | priorityPosition => Lookup.enumerations.column "position"

/-- Whether the column is declared to hold texts, in which case it is compared as text. -/
def isTextual : Reference → Bool
  | item .subject | item .description | statusName | typeName | priorityName => true
  | _ => false

end Reference

/-! ### Properties -/

/-- The properties that can be filtered on, with their columns. -/
def filterColumns : List (String × Reference) :=
  [("id", .item .id),
   ("subject", .item .subject),
   ("description", .item .description),
   ("project_id", .item .projectId),
   ("type_id", .item .typeId),
   ("status_id", .item .statusId),
   ("priority_id", .item .priorityId),
   ("author_id", .item .authorId),
   ("assigned_to_id", .item .assignedToId),
   ("responsible_id", .item .responsibleId),
   ("category_id", .item .categoryId),
   ("version_id", .item .versionId),
   ("parent_id", .item .parentId),
   ("start_date", .item .startDate),
   ("due_date", .item .dueDate),
   ("estimated_hours", .item .estimatedHours),
   ("done_ratio", .item .doneRatio),
   ("created_at", .item .createdAt),
   ("updated_at", .item .updatedAt),
   ("status", .statusName),
   ("status_is_closed", .statusIsClosed),
   ("type", .typeName),
   ("priority", .priorityName),
   ("priority_position", .priorityPosition)]

/-- The properties that can be sorted by, with their columns. -/
def sortColumns : List (String × Reference) :=
  [("id", .item .id),
   ("subject", .item .subject),
   ("project", .item .projectId),
   ("type", .typePosition),
   ("status", .statusPosition),
   ("priority", .priorityPosition),
   ("author", .item .authorId),
   ("assigned_to", .item .assignedToId),
   ("responsible", .item .responsibleId),
   ("start_date", .item .startDate),
   ("due_date", .item .dueDate),
   ("estimated_hours", .item .estimatedHours),
   ("done_ratio", .item .doneRatio),
   ("created_at", .item .createdAt),
   ("updated_at", .item .updatedAt),
   ("version", .item .versionId),
   ("category", .item .categoryId),
   ("parent", .item .parentId)]

/-- The column of a property that is filtered on. -/
def filterColumn? (property : String) : Option Reference :=
  filterColumns.lookup property

/-- The column of a property that is sorted by. -/
def sortColumn? (property : String) : Option Reference :=
  sortColumns.lookup property

end WorkQuery.Sql
