/-
This file reads the arguments of endpoints: the parameters of a request, the number of a query in
its path, and its body. Issues are placed under the part of the request that they were found in.
-/

import WorkQuery.Json.Reader
import WorkQuery.Service.Message
import WorkQuery.Table.Page
import WorkQuery.Text.Encoding

namespace WorkQuery.Service

open Json Number Schema

/-! ### Parameters -/

/-- The text of a parameter, if it is given; the last one counts. -/
def parameter? (request : Request) (name : String) : Option String :=
  request.parameters.reverse.lookup name

/-- The text of a parameter as a value, null if it is not given. -/
def parameterValue (request : Request) (name : String) : Value :=
  .ofOption .text (parameter? request name)

/-- An integer parameter that may be left out. -/
def integerParameter (request : Request) (name : String) : Checked (Option Int) :=
  match parameter? request name with
  | some written =>
    (within (.field "query") (within (.field name) (integerOfText written))).map some
  | none => .ok none

/-- The usual number of rows on a page. -/
def usualPageSize : Int := 20

/-- The greatest number of rows on a page that may be asked for. -/
def greatestPageSize : Int := 1000

/-- An integer parameter between two bounds, with a fallback. -/
def boundedParameter (request : Request) (name : String) (fallback least : Int)
    (greatest : Option Int) : Checked Int := do
  match parameter? request name with
  | none => return fallback
  | some written =>
    within (.field "query") <| within (.field name) do
      let value ← integerOfText written
      if value < least then reject .belowLeast
      else if greatest.any fun greatest => greatest < value then reject .aboveGreatest
      else return value

/-- The page that a request asks for. A page so far behind that its offset cannot be given is
refused as a whole. -/
def pageArgument (request : Request) : Checked PageRequest := do
  let (page, perPage) ← both
    ((boundedParameter request "page" 1 1 none).map Prod.mk)
    (boundedParameter request "per_page" usualPageSize 1 (some greatestPageSize))
  match PageRequest.ofPage page perPage with
  | .ok page => return page
  | .error _ => .error (.parse (.page page))

/-! ### Paths -/

/-- The number of a saved query in a path. -/
def queryIdArgument (written : String) : Checked Int :=
  within (.field "path") (within (.field "query_id") (integerOfText written))

/-! ### Bodies -/

/-- The value of a body, if there is one; a body that is null counts as none. -/
def bodyValue : Body → Except Refusal (Option Value)
  | .absent => .ok none
  | .value .null => .ok none
  | .value value => .ok (some value)
  | .text text =>
    if text = "" then .ok none
    else
      match Text.received? text with
      | none => .error .bodyUnreadable
      | some text =>
        match Json.read .request text with
        | .ok .null => .ok none
        | .ok value => .ok (some value)
        | .error fault =>
          match fault.position? text with
          | some position =>
            .error (.issues [⟨[.field "body", .index position], .malformedJson⟩])
          | none => .error .bodyUnreadable

/-- A body that has to be there. -/
def bodyArgument {Argument : Type} (body : Option Value) (read : Value → Checked Argument) :
    Checked Argument :=
  within (.field "body") <|
    match body with
    | some value => read value
    | none => reject .missing

/-- A body that is a query document: an object of any kind. -/
def documentBody : Value → Checked Value
  | .object fields => .ok (.object fields)
  | _ => reject .mapKind

end WorkQuery.Service
