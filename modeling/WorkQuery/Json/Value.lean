/-
This file holds JSON values. Integers and numbers with a point or exponent are told apart, and the
members of an object keep their order; a member that is set again keeps its first place and takes
the last value.
-/

import WorkQuery.Number.Binary64
import WorkQuery.Text.Symbol

namespace WorkQuery.Json

open Number

/-- A JSON value. -/
inductive Value
  | null
  | bool (truth : Bool)
  | int (value : Int)
  | real (value : Binary64)
  | text (value : String)
  | list (items : List Value)
  | object (fields : List (String × Value))
deriving Inhabited, Repr

/-- The members of an object, in order. -/
abbrev Fields := List (String × Value)

/-! ### Members -/

namespace Fields

/-- The value of a member, if the object has it. -/
def get? (fields : Fields) (name : String) : Option Value :=
  (fields.find? fun field => field.1 == name).map (·.2)

/-- The members with one of them set, in its place if it is there and else at the end. -/
def set (fields : Fields) (name : String) (value : Value) : Fields :=
  if fields.any fun field => field.1 == name then
    fields.map fun field => if field.1 == name then (name, value) else field
  else fields ++ [(name, value)]

/-- The members of a list in which a name may be repeated. -/
def ofList (members : List (String × Value)) : Fields :=
  members.foldl (fun fields member => set fields member.1 member.2) []

end Fields

namespace Value

/-- The value of a member of an object; other values have no members. -/
def member? (name : String) : Value → Option Value
  | .object fields => Fields.get? fields name
  | _ => none

/-- The value of a member, null where it is absent. -/
def member (name : String) (value : Value) : Value :=
  (value.member? name).getD .null

/-- A value or null. -/
def ofOption {Content : Type} (write : Content → Value) : Option Content → Value
  | some content => write content
  | none => .null

/-- A list of texts. -/
def texts (items : List String) : Value :=
  .list (items.map .text)

/-- Whether the value counts as nothing: null, false, a zero, or anything empty. -/
def isVoid : Value → Bool
  | .null => true
  | .bool truth => !truth
  | .int value => value == 0
  | .real value => value.isZero
  | .text value => value.isEmpty
  | .list items => items.isEmpty
  | .object fields => fields.isEmpty

/-- The text of a value that is one. -/
def text? : Value → Option String
  | .text value => some value
  | _ => none

/-- The word by which messages name the kind of a value. -/
def kindName : Value → String
  | .null => "NoneType"
  | .bool _ => "bool"
  | .int _ => "int"
  | .real _ => "float"
  | .text _ => "str"
  | .list _ => "list"
  | .object _ => "dict"

/-! ### Halves of surrogate pairs -/

mutual

/-- Whether a text somewhere in the value holds half of a surrogate pair. -/
def holdsHalf : Value → Bool
  | .text value => Text.holdsHalf value
  | .list items => itemsHoldHalf items
  | .object fields => fieldsHoldHalf fields
  | _ => false

/-- Whether one of the values holds half of a surrogate pair. -/
def itemsHoldHalf : List Value → Bool
  | [] => false
  | item :: items => holdsHalf item || itemsHoldHalf items

/-- Whether one of the members holds half of a surrogate pair, in its name or in its value. -/
def fieldsHoldHalf : List (String × Value) → Bool
  | [] => false
  | (name, value) :: fields =>
    Text.holdsHalf name || holdsHalf value || fieldsHoldHalf fields

end

/-! ### Equality -/

mutual

/-- Whether two values are the same, member by member and in order. -/
def same : Value → Value → Bool
  | .null, .null => true
  | .bool left, .bool right => left == right
  | .int left, .int right => left == right
  | .real left, .real right => left == right
  | .text left, .text right => left == right
  | .list left, .list right => sameItems left right
  | .object left, .object right => sameFields left right
  | _, _ => false

/-- Whether two lists hold the same values. -/
def sameItems : List Value → List Value → Bool
  | [], [] => true
  | left :: lefts, right :: rights => same left right && sameItems lefts rights
  | _, _ => false

/-- Whether two objects have the same members in the same order. -/
def sameFields : List (String × Value) → List (String × Value) → Bool
  | [], [] => true
  | (name, left) :: lefts, (name', right) :: rights =>
    name == name' && same left right && sameFields lefts rights
  | _, _ => false

end

instance : BEq Value := ⟨same⟩

mutual

theorem eq_of_same : ∀ {left right : Value}, same left right = true → left = right
  | .null, right, equal => by cases right <;> first | rfl | cases equal
  | .bool left, right, equal => by
    cases right with
    | bool right => exact congrArg bool (beq_iff_eq.mp equal)
    | _ => cases equal
  | .int left, right, equal => by
    cases right with
    | int right => exact congrArg int (beq_iff_eq.mp equal)
    | _ => cases equal
  | .real left, right, equal => by
    cases right with
    | real right => exact congrArg real (beq_iff_eq.mp equal)
    | _ => cases equal
  | .text left, right, equal => by
    cases right with
    | text right => exact congrArg text (beq_iff_eq.mp equal)
    | _ => cases equal
  | .list left, right, equal => by
    cases right with
    | list right => exact congrArg list (eq_of_sameItems equal)
    | _ => cases equal
  | .object left, right, equal => by
    cases right with
    | object right => exact congrArg object (eq_of_sameFields equal)
    | _ => cases equal

theorem eq_of_sameItems : ∀ {left right : List Value}, sameItems left right = true → left = right
  | [], right, equal => by
    cases right with
    | nil => rfl
    | cons => cases equal
  | left :: lefts, right, equal => by
    cases right with
    | nil => cases equal
    | cons right rights =>
      obtain ⟨first, rest⟩ := Bool.and_eq_true_iff.mp equal
      rw [eq_of_same first, eq_of_sameItems rest]

theorem eq_of_sameFields : ∀ {left right : List (String × Value)},
    sameFields left right = true → left = right
  | [], right, equal => by
    cases right with
    | nil => rfl
    | cons => cases equal
  | (name, left) :: lefts, right, equal => by
    cases right with
    | nil => cases equal
    | cons field rights =>
      obtain ⟨first, rest⟩ := Bool.and_eq_true_iff.mp equal
      obtain ⟨named, first⟩ := Bool.and_eq_true_iff.mp first
      obtain ⟨name', right⟩ := field
      rw [beq_iff_eq.mp named, eq_of_same first, eq_of_sameFields rest]

end

mutual

theorem same_refl : ∀ value : Value, same value value = true
  | .null => rfl
  | .bool _ | .int _ | .real _ | .text _ => beq_self_eq_true _
  | .list items => sameItems_refl items
  | .object fields => sameFields_refl fields

theorem sameItems_refl : ∀ items : List Value, sameItems items items = true
  | [] => rfl
  | item :: items => Bool.and_eq_true_iff.mpr ⟨same_refl item, sameItems_refl items⟩

theorem sameFields_refl : ∀ fields : List (String × Value), sameFields fields fields = true
  | [] => rfl
  | (name, value) :: fields =>
    Bool.and_eq_true_iff.mpr
      ⟨Bool.and_eq_true_iff.mpr ⟨beq_self_eq_true name, same_refl value⟩, sameFields_refl fields⟩

end

instance : LawfulBEq Value where
  eq_of_beq := eq_of_same
  rfl := same_refl _

instance : DecidableEq Value := fun _ _ => decidable_of_iff _ beq_iff_eq

end Value

end WorkQuery.Json
