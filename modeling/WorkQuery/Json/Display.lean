/-
This file shows JSON values in messages and turns them into filter texts. `shown` quotes texts
wherever they stand; `plain` gives a text as it is and shows everything else. Lists stand between
brackets and members between braces, separated by commas. Not every value can be shown: an integer
may have more digits than are written, and too many values may stand inside each other. `display`
and `written` give those texts only where they can be had, and otherwise the first fault that is
met on the way through the value.
-/

import WorkQuery.Json.Value
import WorkQuery.Number.Shortest
import WorkQuery.Text.Quoted

namespace WorkQuery.Json

open Number Text

/-- What keeps a value from being shown. -/
inductive ShowFault
  | tooManyDigits
  | tooDeep
deriving DecidableEq, Repr

/-- How many values may stand inside each other where a value is shown: as many as the stack of
calls has room for below a request. -/
def displayDepth : Nat := 992

namespace Value

/-! ### Texts -/

mutual

/-- A value as messages show it. -/
def shown : Value → String
  | .null => "None"
  | .bool truth => if truth then "True" else "False"
  | .int value => integerText value
  | .real value => value.text
  | .text value => quoted value
  | .list items => "[" ++ ", ".intercalate (shownItems items) ++ "]"
  | .object fields => "\x7b" ++ ", ".intercalate (shownFields fields) ++ "\x7d"

/-- The items of a list, each as shown. -/
def shownItems : List Value → List String
  | [] => []
  | item :: items => shown item :: shownItems items

/-- The members of an object, each as its quoted name and its value. -/
def shownFields : List (String × Value) → List String
  | [] => []
  | (name, value) :: fields => (quoted name ++ ": " ++ shown value) :: shownFields fields

end

/-- A value as a text: a text is itself, everything else is as messages show it. -/
def plain : Value → String
  | .text value => value
  | value => value.shown

/-! ### Faults -/

mutual

/-- The first fault of a value, where as many values as `room` may stand inside each other. -/
def faultWithin? : (room : Nat) → Value → Option ShowFault
  | 0, _ => some .tooDeep
  | _ + 1, .int value => if isTooLong value then some .tooManyDigits else none
  | room + 1, .list items => itemsFault? room items
  | room + 1, .object fields => fieldsFault? room fields
  | _ + 1, _ => none

/-- The first fault of the items of a list. -/
def itemsFault? (room : Nat) : List Value → Option ShowFault
  | [] => none
  | item :: items => (faultWithin? room item).or (itemsFault? room items)

/-- The first fault of the members of an object. -/
def fieldsFault? (room : Nat) : List (String × Value) → Option ShowFault
  | [] => none
  | (_, value) :: fields => (faultWithin? room value).or (fieldsFault? room fields)

end

/-- A value as messages show it, unless it cannot be shown. -/
def display (value : Value) : Except ShowFault String :=
  match value.faultWithin? displayDepth with
  | some fault => .error fault
  | none => .ok value.shown

/-- A value as a text, unless it has none: a text is itself, everything else is as messages show
it. -/
def written (value : Value) : Except ShowFault String :=
  match value.text? with
  | some itself => .ok itself
  | none => value.display

/-! ### Small facts -/

theorem display_eq_ok {value : Value} {text : String} (displayed : value.display = .ok text) :
    value.faultWithin? displayDepth = none ∧ value.shown = text := by
  unfold display at displayed
  split at displayed
  · cases displayed
  · rename_i faultless
    exact ⟨faultless, Except.ok.inj displayed⟩

theorem plain_of_written {value : Value} {text : String} (isWritten : value.written = .ok text) :
    value.plain = text := by
  unfold written at isWritten
  cases value with
  | text => exact Except.ok.inj isWritten
  | _ => exact (display_eq_ok isWritten).2

end Value

end WorkQuery.Json
