/-
This file holds the table of saved queries: which of its rows a requester may see, how they are
listed, and the changes that can be made to it. A row is visible to its owner and, if it is shared,
to everybody; it belongs to its owner alone. A single row is looked at after it has been found,
while a list is put together by the store, which asks for the same rows in its own way: by
conditions that are neither true nor false where a value is missing (`isListed_eq`).
-/

import WorkQuery.Saved.Row
import WorkQuery.Table.Evaluation

namespace WorkQuery

/-! ### Visibility and ownership -/

/-- Whether a row with a visibility and an owner may be seen by a requester. -/
def isVisibleTo (visibility : String) (owner user : Option Int) : Bool :=
  (Visibility.ofName? visibility).any Visibility.isShared || (user.isSome && user == owner)

namespace SavedRow

/-- Whether a requester may see a row. -/
def isVisible (user : Option Int) (row : SavedRow) : Bool :=
  isVisibleTo row.content.visibility row.userId user

/-- Whether a row belongs to the scope of a project: it is the project's own or no project's. -/
def inScope (project : Option Int) (row : SavedRow) : Bool :=
  match project with
  | some id => row.content.projectId == some id || row.content.projectId.isNone
  | none => true

end SavedRow

/-! ### Lists -/

/-- The names of the visibilities that make a row everybody's. -/
def sharedNames : List String := [Visibility.everyone.name, Visibility.global.name]

namespace SavedRow

/-- The truth of the condition that the store puts on a row for a requester; nobody in particular
is only shown shared rows. -/
def seen? (user : Option Int) (row : SavedRow) : Option Bool :=
  let shared := some (sharedNames.contains row.content.visibility)
  match user with
  | some id => Sql.eitherHolds (some (row.userId == id)) shared
  | none => shared

/-- The truth of the condition that the store puts on a row for a project. A missing project is not
compared with another one: it is asked for by a condition of its own. -/
def scoped? (project : Option Int) (row : SavedRow) : Option Bool :=
  match project with
  | some id =>
    Sql.eitherHolds (row.content.projectId.map (· == id)) (some row.content.projectId.isNone)
  | none => some true

/-- Whether the store puts a row into a list. -/
def isListed (user project : Option Int) (row : SavedRow) : Bool :=
  Sql.bothHold (row.seen? user) (row.scoped? project) == some true

/-- Whether a row comes before another in a list: starred rows first, then by name, then by
number. -/
def comesBefore (left right : SavedRow) : Bool :=
  let byStar := compare right.content.starred.toNat left.content.starred.toNat
  let byName := compare left.content.name right.content.name
  (byStar.then (byName.then (compare left.id right.id))) != .gt

end SavedRow

/-! ### The table -/

/-- The rows of the table of saved queries, in the order in which they were added. -/
abbrev SavedRows := List SavedRow

namespace SavedRows

/-- The row of a number. -/
def get? (rows : SavedRows) (id : Int) : Option SavedRow :=
  rows.find? fun row => row.id == id

/-- The row of a number, if a requester may see it. -/
def getVisible? (rows : SavedRows) (id : Int) (user : Option Int) : Option SavedRow :=
  (get? rows id).filter (SavedRow.isVisible user)

/-- The row of a number, if it belongs to a user. -/
def getOwned? (rows : SavedRows) (id user : Int) : Option SavedRow :=
  (get? rows id).filter fun row => row.userId == user

/-- The rows that a requester may see within a scope, in order. -/
def visible (rows : SavedRows) (user project : Option Int) : List SavedRow :=
  (rows.filter (SavedRow.isListed user project)).mergeSort SavedRow.comesBefore

/-- The number that a new row gets: one more than the greatest in use. -/
def nextId (rows : SavedRows) : Int :=
  (rows.map SavedRow.id).foldl max 0 + 1

/-- The table with a changed row in the place of the row with its number. -/
def put (rows : SavedRows) (changed : SavedRow) : SavedRows :=
  rows.map fun row => if row.id == changed.id then changed else row

/-- The table without the row of a number. -/
def erase (rows : SavedRows) (id : Int) : SavedRows :=
  rows.filter fun row => row.id != id

/-- The row that a query becomes for its owner. -/
def newRow (rows : SavedRows) (user : Int) (query : Query) : SavedRow :=
  ⟨nextId rows, user, .ofQuery query⟩

end SavedRows

/-! ### Small facts -/

theorem any_isShared_ofName? (name : String) :
    (Visibility.ofName? name).any Visibility.isShared = sharedNames.contains name := by
  unfold Visibility.ofName? sharedNames
  by_cases own : Visibility.own.name = name
  · subst own
    rfl
  · by_cases everyone : Visibility.everyone.name = name
    · subst everyone
      rfl
    · by_cases global : Visibility.global.name = name
      · subst global
        rfl
      · simp [own, everyone, global, Ne.symm everyone, Ne.symm global]

namespace SavedRow

theorem seen?_eq (user : Option Int) (row : SavedRow) :
    row.seen? user = some (row.isVisible user) := by
  unfold seen? isVisible isVisibleTo
  rw [any_isShared_ofName?]
  cases user with
  | none => rw [Option.isSome_none, Bool.false_and, Bool.or_false]
  | some id =>
    change Sql.eitherHolds (some (row.userId == id)) (some _) = some (_ || id == row.userId)
    rw [Sql.eitherHolds_some, Bool.or_comm, Bool.beq_comm]

theorem scoped?_eq (project : Option Int) (row : SavedRow) :
    row.scoped? project = some (row.inScope project) := by
  unfold scoped? inScope
  cases project with
  | none => rfl
  | some id =>
    cases row.content.projectId with
    | none => rfl
    | some own => exact Sql.eitherHolds_some (own == id) false

/-- The store lists the rows of the scope that the requester may see one by one. -/
theorem isListed_eq (user project : Option Int) (row : SavedRow) :
    row.isListed user project = (row.isVisible user && row.inScope project) := by
  unfold isListed
  rw [seen?_eq, scoped?_eq, Sql.bothHold_some]
  cases row.isVisible user && row.inScope project <;> rfl

end SavedRow

end WorkQuery
