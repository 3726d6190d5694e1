/-
This file holds the way in which values are read into types of the library. A reader gives the
typed value or fails; where several parts are read, their issues are collected in order, so that
one answer names everything that is wrong. A failure that is no issue stops the reading at once.
-/

import WorkQuery.Failure

namespace WorkQuery.Schema

open Json

/-- The outcome of reading a value of a type. -/
abbrev Checked (Content : Type) := Except Failure Content

/-! ### Issues and places -/

/-- The failure with a single issue at the value itself. -/
def reject {Content : Type} (cause : Cause) : Checked Content :=
  .error (.invalid [⟨[], cause⟩])

/-- The issues of a part, seen from the whole: each path gets one more step in front. -/
def within {Content : Type} (step : Step) : Checked Content → Checked Content
  | .error (.invalid issues) =>
    .error (.invalid (issues.map fun issue => { issue with path := step :: issue.path }))
  | outcome => outcome

/-- Applies what was read to what was read next and collects the issues of both. -/
def both {Argument Content : Type} :
    Checked (Argument → Content) → Checked Argument → Checked Content
  | .ok function, .ok argument => .ok (function argument)
  | .error (.invalid issues), .error (.invalid issues') => .error (.invalid (issues ++ issues'))
  | .error (.invalid issues), .ok _ => .error (.invalid issues)
  | .error (.invalid _), .error failure => .error failure
  | .error failure, _ => .error failure
  | .ok _, .error failure => .error failure

/-- Reads the items of a list, each at its position, and collects their issues. -/
def readItems {Content : Type} (read : Value → Checked Content) (start : Nat) :
    List Value → Checked (List Content)
  | [] => .ok []
  | item :: items =>
    both ((within (.index start) (read item)).map List.cons) (readItems read (start + 1) items)

/-! ### Lists, objects and their members -/

/-- A list of values that all fit. -/
def items {Content : Type} (read : Value → Checked Content) : Value → Checked (List Content)
  | .list items => readItems read 0 items
  | _ => reject .listKind

/-- Null, or a value that fits. -/
def nullable {Content : Type} (read : Value → Checked Content) : Value → Checked (Option Content)
  | .null => .ok none
  | value => (read value).map some

/-- The members of an object that stands for a record. -/
def record : Value → Checked Fields
  | .object fields => .ok fields
  | _ => reject .modelKind

/-- A member that has to be there. -/
def required {Content : Type} (fields : Fields) (name : String)
    (read : Value → Checked Content) : Checked Content :=
  within (.field name) <|
    match fields.get? name with
    | some value => read value
    | none => reject .missing

/-- A member that may be left out. -/
def optional {Content : Type} (fields : Fields) (name : String) (fallback : Content)
    (read : Value → Checked Content) : Checked Content :=
  match fields.get? name with
  | some value => within (.field name) (read value)
  | none => .ok fallback

/-! ### Loose lists -/

/-- The values that a value runs through, one after the other: the items of a list, the symbols of
a text, the names of an object. -/
def elements : Value → Checked (List Value)
  | .list items => .ok items
  | .text written =>
    .ok ((Text.symbols written.toList).map fun symbol => .text (Text.ofSymbols [symbol]))
  | .object fields => .ok (fields.map fun field => .text field.1)
  | value => .error (.notIterable value.kindName)

/-! ### Loose texts -/

/-- The text of a value that an operation on texts is asked of; other values have no such
operation. -/
def textFor (operation : String) : Value → Checked String
  | .text value => .ok value
  | value => .error (.noAttribute value.kindName operation)

/-- The text of a value that an operation on texts is asked of, where anything void stands for the
empty text. -/
def looseTextFor (operation : String) (value : Value) : Checked String :=
  if value.isVoid then .ok "" else textFor operation value

/-! ### Small facts -/

/-- A whole is sound only if both parts are. -/
theorem both_eq_ok {Argument Content : Type} {function : Checked (Argument → Content)}
    {argument : Checked Argument} {content : Content}
    (sound : both function argument = .ok content) :
    ∃ f a, function = .ok f ∧ argument = .ok a ∧ content = f a := by
  unfold both at sound
  split at sound <;> simp_all

/-- Placing the issues of a part does not change whether it is sound. -/
theorem within_eq_ok {Content : Type} {step : Step} {outcome : Checked Content}
    {content : Content} : within step outcome = .ok content ↔ outcome = .ok content := by
  unfold within
  split <;> simp

end WorkQuery.Schema
