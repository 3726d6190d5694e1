/-
This file holds what the service is asked and what it answers. A request names a method and a path
and may bring parameters, a body and a token. A refusal says why a request is not carried out;
`Refusal.response` gives each its status and its body, in one of two styles.
-/

import WorkQuery.Failure
import WorkQuery.Service.Identity

namespace WorkQuery.Service

open Json Number Schema

/-! ### Requests -/

/-- The body of a request. -/
inductive Body
  | absent
  | value (value : Value)
  | text (text : String)

/-- A request. -/
structure Request where
  method : String
  path : String
  parameters : List (String × String)
  body : Body
  token : Option Token

/-! ### Responses -/

/-- The body of a response. -/
inductive Content
  | json (value : Value)
  | issues (issues : List Issue)
  | text (text : String)

/-- A response; `challenge` tells whether it asks for a token. -/
structure Response where
  status : Nat
  content : Content
  challenge : Bool

/-- Why a request is not carried out. -/
inductive Refusal
  | pathUnknown
  | methodUnknown
  | bodyUnreadable
  | unauthenticated
  | queryUnknown
  | issues (issues : List Issue)
  | parse (error : ParseError)
  | database
  | unexpected

namespace Refusal

/-- The refusal for a failure inside an endpoint. -/
def ofFailure : Failure → Refusal
  | .parse error => parse error
  | .database => database
  | _ => unexpected

/-- The refusal for a failure to read the arguments of an endpoint. -/
def ofArgumentFailure : Failure → Refusal
  | .invalid found => issues found
  | failure => ofFailure failure

/-- The status of a refusal. -/
def status : Refusal → Nat
  | pathUnknown => 404
  | methodUnknown => 405
  | bodyUnreadable => 400
  | unauthenticated => 401
  | queryUnknown => 404
  | issues _ => 422
  | parse _ => 400
  | database => 500
  | unexpected => 500

/-- The sentence of a refusal. -/
def detail : Refusal → String
  | pathUnknown => "Not Found"
  | methodUnknown => "Method Not Allowed"
  | bodyUnreadable => "There was an error parsing the body"
  | unauthenticated => "Could not validate credentials"
  | queryUnknown => "Query not found"
  | issues _ => "Validation error"
  | parse error => error.message
  | database => Failure.database.message
  | unexpected => "Internal server error"

/-- The code of a refusal in the uniform style. -/
def code : Refusal → String
  | pathUnknown => "NOT_FOUND"
  | methodUnknown => "ERROR"
  | bodyUnreadable => "BAD_REQUEST"
  | unauthenticated => "UNAUTHORIZED"
  | queryUnknown => "NOT_FOUND"
  | issues _ => "UNPROCESSABLE_ENTITY"
  | parse _ => "BAD_REQUEST"
  | database => "DATABASE_ERROR"
  | unexpected => "INTERNAL_SERVER_ERROR"

/-- The body of a refusal in the uniform style. -/
def uniformContent (refusal : Refusal) : Content :=
  .json (.object [("error", .object [("code", .text refusal.code),
    ("message", .text refusal.detail)])])

/-- The body of a refusal. Queries that are refused or fail always answer in the uniform style,
the others only if it is asked for. -/
def content (uniform : Bool) (refusal : Refusal) : Content :=
  if uniform then refusal.uniformContent
  else
    match refusal with
    | parse _ | database => refusal.uniformContent
    | .issues found => .issues found
    | unexpected => .text "Internal Server Error"
    | other => .json (.object [("detail", .text other.detail)])

/-- Whether a refusal asks for a token. -/
def challenges : Refusal → Bool
  | unauthenticated => true
  | _ => false

/-- The response to a refused request. -/
def response (uniform : Bool) (refusal : Refusal) : Response :=
  ⟨refusal.status, refusal.content uniform, refusal.challenges⟩

end Refusal

end WorkQuery.Service
