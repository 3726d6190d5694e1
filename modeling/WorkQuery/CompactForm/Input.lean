/-
This file holds what the two compact forms have in common. A compact form is a JSON array that
arrives as a list, as its text, or not at all; an empty text counts as no list. Values inside of a
form are taken as texts, which not every value has.
-/

import WorkQuery.Failure
import WorkQuery.Json.Reader

namespace WorkQuery.CompactForm

open Json

/-- The entries of a compact form; `subject` is what the form is called in messages. -/
def entries (subject : String) : Value → Except Failure (List Value)
  | .null => .ok []
  | .list items => .ok items
  | .text text =>
    if text = "" then .ok []
    else
      match Json.read .request text with
      | .ok (.list items) => .ok items
      | .ok _ => .error (.parse (.notArray subject))
      | .error (.tooDeep nest) => .error (.tooDeep (.reading nest))
      | .error _ => .error (.parse (.notJson subject))
  | _ => .error (.parse (.notJson subject))

/-- A value of a compact form as a text. -/
def word (value : Value) : Except Failure String :=
  value.written.mapError .ofShowFault

end WorkQuery.CompactForm
