/-
This file holds sort orders. A criterion sorts by a property in a direction; an order lists
criteria, the later ones deciding between what the earlier ones leave equal. An order without
criteria leaves the choice to whoever runs the query.
-/

import WorkQuery.Schema.Scalar

namespace WorkQuery

open Json Schema Text

/-! ### Directions -/

/-- The direction of a sort. -/
inductive Direction
  | ascending
  | descending
deriving DecidableEq, Repr

namespace Direction

/-- The short name of a direction. -/
def name : Direction → String
  | ascending => "asc"
  | descending => "desc"

/-- The direction of a short name. -/
def ofName? : String → Option Direction
  | "asc" => some ascending
  | "desc" => some descending
  | _ => none

/-- The direction that a word means, in any case and with blanks around it. -/
def parse? (word : String) : Option Direction :=
  match keyword word with
  | "asc" => some ascending
  | "ascending" => some ascending
  | "desc" => some descending
  | "descending" => some descending
  | _ => none

/-- The direction that a value means, if it is a word that means one. -/
def ofWord (value : Value) : Checked (Option Direction) :=
  (looseTextFor "strip" value).map parse?

/-- The other direction. -/
def reverse : Direction → Direction
  | ascending => descending
  | descending => ascending

theorem reverse_reverse (direction : Direction) : direction.reverse.reverse = direction := by
  cases direction <;> rfl

end Direction

/-! ### Criteria -/

/-- A property to sort by, and the direction. -/
structure SortCriterion where
  property : String
  direction : Direction
deriving DecidableEq, Repr

namespace SortCriterion

/-- The criterion in the other direction. -/
def reversed (criterion : SortCriterion) : SortCriterion :=
  { criterion with direction := criterion.direction.reverse }

/-- A criterion of a query document; the direction is ascending if it is left out. -/
def ofValue (value : Value) : Checked SortCriterion := do
  let fields ← record value
  both ((required fields "attribute" Schema.text).map SortCriterion.mk)
    (optional fields "direction" .ascending (memberOf Direction.ofName?))

/-- A criterion in a query document. -/
def toValue (criterion : SortCriterion) : Value :=
  .object [("attribute", .text criterion.property), ("direction", .text criterion.direction.name)]

end SortCriterion

/-! ### Orders -/

/-- Sort criteria, the most important first. -/
structure SortOrder where
  criteria : List SortCriterion
deriving DecidableEq, Repr

namespace SortOrder

/-- The order without criteria. -/
def empty : SortOrder := ⟨[]⟩

/-- The order by one property. -/
def single (property : String) (direction : Direction) : SortOrder :=
  ⟨[⟨property, direction⟩]⟩

/-- The order that lists have if none is asked for: the newest first. -/
def standard : SortOrder := single "id" .descending

/-- The order with one more criterion, the least important of all. -/
def add (order : SortOrder) (criterion : SortCriterion) : SortOrder :=
  ⟨order.criteria ++ [criterion]⟩

/-- Whether there are no criteria. -/
def isEmpty (order : SortOrder) : Bool :=
  order.criteria.isEmpty

/-- The most important criterion. -/
def primary? (order : SortOrder) : Option SortCriterion :=
  order.criteria.head?

/-- Whether some criterion sorts by a property. -/
def sortsBy (order : SortOrder) (property : String) : Bool :=
  order.criteria.any fun criterion => criterion.property == property

/-- The order without the criteria on a property. -/
def removeSortFor (order : SortOrder) (property : String) : SortOrder :=
  ⟨order.criteria.filter fun criterion => criterion.property != property⟩

/-- The number of criteria. -/
def size (order : SortOrder) : Nat :=
  order.criteria.length

/-- The order in which every criterion is reversed. -/
def reversed (order : SortOrder) : SortOrder :=
  ⟨order.criteria.map SortCriterion.reversed⟩

/-- The order itself, or the standard one if it has no criteria. -/
def orStandard (order : SortOrder) : SortOrder :=
  if order.isEmpty then standard else order

/-- The order of a query document. -/
def ofValue (value : Value) : Checked SortOrder := do
  let fields ← record value
  (optional fields "criteria" [] (items SortCriterion.ofValue)).map SortOrder.mk

/-- An order in a query document. -/
def toValue (order : SortOrder) : Value :=
  .object [("criteria", .list (order.criteria.map SortCriterion.toValue))]

theorem isEmpty_orStandard (order : SortOrder) : order.orStandard.isEmpty = false := by
  unfold orStandard
  cases none : order.isEmpty
  · simpa using none
  · rfl

end SortOrder

end WorkQuery
