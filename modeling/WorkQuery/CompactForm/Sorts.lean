/-
This file holds the compact form of sort orders: pairs of a property and a direction, or a text
with the property alone or with a colon and the direction behind it.
-/

import WorkQuery.CompactForm.Input
import WorkQuery.Sort.Order

namespace WorkQuery.CompactForm

open Json

/-- The text before the first colon, and the text behind it. -/
def splitColon (text : String) : String × String :=
  let characters := text.toList
  let before := characters.takeWhile (· != ':')
  (String.ofList before, String.ofList (characters.drop (before.length + 1)))

/-- The pair that an entry gives. -/
def criterionPair : Value → Except Failure (Value × Value)
  | .text text =>
    let (property, direction) := splitColon text
    .ok (.text property, .text (if direction = "" then Direction.ascending.name else direction))
  | .list [property, direction] => .ok (property, direction)
  | _ => .error (.parse .criterionShape)

/-- The refusal of a pair, which shows it. -/
def refusePair (property direction : Value) : Except Failure SortCriterion := do
  let shown ← (Value.list [property, direction]).display.mapError .ofShowFault
  .error (.parse (.criterion shown))

/-- The criterion of a pair. Both parts are taken as texts, and the property must not count as
nothing. -/
def criterionOfPair (property direction : Value) : Except Failure SortCriterion := do
  let name ← word direction
  match Direction.parse? name with
  | some direction' =>
    if property.isVoid then refusePair property direction
    else do
      let property ← word property
      return ⟨property, direction'⟩
  | none => refusePair property direction

/-- The criterion of one entry. -/
def parseCriterion (entry : Value) : Except Failure SortCriterion := do
  let (property, direction) ← criterionPair entry
  criterionOfPair property direction

/-- The sort order of a compact form. -/
def parseSorts (raw : Value) : Except Failure SortOrder := do
  let entries ← entries "sortBy" raw
  let criteria ← entries.mapM parseCriterion
  return ⟨criteria⟩

/-- A sort order in the compact form. -/
def sortsValue (order : SortOrder) : Value :=
  .list (order.criteria.map fun criterion =>
    .texts [criterion.property, criterion.direction.name])

end WorkQuery.CompactForm
