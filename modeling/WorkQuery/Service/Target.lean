/-
This file reads the target of a request as it is written: a path, perhaps with parameters after a
question mark. The path loses its steps `.` and `..`, and its escapes are read twice, once by the
sender and once by the receiver; those of the parameters are read once.
-/

import WorkQuery.Service.Message
import WorkQuery.Text.Capital
import WorkQuery.Text.Encoding

namespace WorkQuery.Service

open Text

/-! ### Paths -/

/-- The path of a target after the name of a host that may stand before it. -/
def withoutHost : List Char → List Char
  | '/' :: '/' :: rest => rest.dropWhile (· != '/')
  | path => path

/-- A path with one slash at its start. -/
def rooted (path : List Char) : List Char :=
  '/' :: path.dropWhile (· == '/')

/-- One segment after those that were kept, the last first: a step back drops the one before it,
but never the start of the path. -/
def addSegment (before : List String) (segment : String) : List String :=
  if segment = "." then before
  else if segment = ".." then if before = [""] then before else before.drop 1
  else segment :: before

/-- A path without the steps `.` and `..`. -/
def withoutSteps (path : String) : String :=
  "/".intercalate ((partsBetween '/' path).foldl addSegment []).reverse

/-! ### Parameters -/

/-- A name or a value of a parameter as text; a plus sign stands for a blank. -/
def parameterText (written : List Char) : String :=
  percentDecoded (String.ofList (written.map fun character =>
    if character = '+' then ' ' else character))

/-- The parameter of a field, if it is not empty. A field without an equals sign has no value. -/
def parameterOf? (field : String) : Option (String × String) :=
  if field = "" then none
  else
    let name := field.toList.takeWhile (· != '=')
    some (parameterText name, parameterText (field.toList.drop (name.length + 1)))

/-- The parameters after the question mark of a target. -/
def parametersOf (written : String) : List (String × String) :=
  (partsBetween '&' written).filterMap parameterOf?

/-! ### Targets -/

/-- The path and the parameters of a target; what follows a hash sign is not sent. -/
def readTarget (target : String) : String × List (String × String) :=
  let sent := target.toList.takeWhile (· != '#')
  let path := sent.takeWhile (· != '?')
  let query := sent.drop (path.length + 1)
  (percentDecoded (percentDecoded (withoutSteps (String.ofList (rooted (withoutHost path))))),
    parametersOf (String.ofList query))

/-- The request that is made with a method and a target. Parameters that are given apart stand in
for those of the target. -/
def Request.ofTarget (method target : String) (given : Option (List (String × String)))
    (body : Body) (token : Option Token) : Request :=
  let (path, parameters) := readTarget target
  ⟨capitals method, path, given.getD parameters, body, token⟩

end WorkQuery.Service
