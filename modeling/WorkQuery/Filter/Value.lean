/-
This file holds the values that filters compare with. A value is of one of ten kinds; the
placeholder for the current user stays a placeholder until a query is turned into conditions for
one requester.
-/

import WorkQuery.Schema.Scalar
import WorkQuery.Number.Shortest

namespace WorkQuery

open Calendar Json Number Schema

/-- The value of a filter. -/
inductive FilterValue
  | id (value : Int)
  | ids (values : List Int)
  | text (value : String)
  | texts (values : List String)
  | truth (value : Bool)
  | date (value : Date)
  | dates (first last : Date)
  | number (value : Binary64)
  | currentUser
  | absent
deriving DecidableEq

namespace FilterValue

/-! ### Views -/

/-- The name of the kind of a value. -/
def kindName : FilterValue → String
  | id _ => "id"
  | ids _ => "ids"
  | text _ => "string"
  | texts _ => "strings"
  | truth _ => "bool"
  | date _ => "date"
  | dates .. => "date_range"
  | number _ => "number"
  | currentUser => "current_user"
  | absent => "none"

/-- The identifiers that a value holds. -/
def toIds : FilterValue → List Int
  | id value => [value]
  | ids values => values
  | _ => []

/-- The texts that a value holds; identifiers count as texts. -/
def toTexts : FilterValue → List String
  | id value => [integerText value]
  | ids values => values.map integerText
  | text value => [value]
  | texts values => values
  | _ => []

/-- The value of a list of identifiers; a single one stands alone. -/
def ofIds : List Int → FilterValue
  | [value] => id value
  | values => ids values

/-- The value of a list of texts; a single one stands alone. -/
def ofTexts : List String → FilterValue
  | [value] => text value
  | values => texts values

/-! ### Schema -/

/-- A member that has two names, the first of which wins. Issues name the one that was used. -/
def requiredUnder {Content : Type} (fields : Fields) (name otherName : String)
    (read : Value → Checked Content) : Checked Content :=
  if (fields.get? name).isNone && (fields.get? otherName).isSome then
    required fields otherName read
  else required fields name read

/-- The reader of the members that a kind of value has; none if there is no such kind. -/
def readerOf? : String → Option (Fields → Checked FilterValue)
  | "id" => some fun fields => (required fields "value" integer).map id
  | "ids" => some fun fields => (required fields "values" (items integer)).map ids
  | "string" => some fun fields => (required fields "value" Schema.text).map text
  | "strings" => some fun fields => (required fields "values" (items Schema.text)).map texts
  | "bool" => some fun fields => (required fields "value" Schema.truth).map truth
  | "date" => some fun fields => (required fields "value" Schema.date).map date
  | "date_range" => some fun fields =>
    both ((requiredUnder fields "from" "from_" Schema.date).map dates)
      (required fields "to" Schema.date)
  | "number" => some fun fields => (required fields "value" Schema.number).map number
  | "current_user" => some fun _ => .ok currentUser
  | "none" => some fun _ => .ok absent
  | _ => none

/-- A filter value: an object whose member `kind` tells what else it holds. Issues in a value of a
known kind are placed under the name of the kind. -/
def ofValue : Value → Checked FilterValue
  | .object fields =>
    match Fields.get? fields "kind" with
    | none => reject .tagMissing
    | some (.text kind) =>
      match readerOf? kind with
      | some reader => within (.field kind) (reader fields)
      | none => reject .tagUnknown
    | some _ => reject .tagUnknown
  | _ => reject .modelOrTagKind

/-- The value of identifiers that are given as any list. -/
def ofIdValues (given : Value) : Checked FilterValue := do
  match ← elements given with
  | [single] => (within (.field "value") (integer single)).map id
  | values => (within (.field "values") (readItems integer 0 values)).map ids

/-- The value of texts that are given as any list. -/
def ofTextValues (given : Value) : Checked FilterValue := do
  match ← elements given with
  | [single] => (within (.field "value") (Schema.text single)).map text
  | values => (within (.field "values") (readItems Schema.text 0 values)).map texts

/-- The members of a value beside its kind. -/
def members : FilterValue → Fields
  | id value => [("value", .int value)]
  | ids values => [("values", .list (values.map .int))]
  | text value => [("value", .text value)]
  | texts values => [("values", .texts values)]
  | truth value => [("value", .bool value)]
  | date value => [("value", .text value.text)]
  | dates first last => [("from", .text first.text), ("to", .text last.text)]
  | number value => [("value", .real value)]
  | currentUser => []
  | absent => []

/-- A filter value in a query document. -/
def toValue (value : FilterValue) : Value :=
  .object (("kind", .text value.kindName) :: value.members)

/-! ### Small facts -/

theorem toIds_ofIds (values : List Int) : (ofIds values).toIds = values := by
  unfold ofIds
  split <;> rfl

end FilterValue

end WorkQuery
