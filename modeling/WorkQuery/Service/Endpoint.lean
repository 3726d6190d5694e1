/-
This file finds the endpoint of a request. A path that no endpoint has is tried again without the
slashes at its end; a path that only other methods are offered at is refused for its method.
-/

import WorkQuery.Service.Message
import WorkQuery.Text.Encoding

namespace WorkQuery.Service

/-- What the service can be asked to do. The number of a saved query is a part of the path and may
be any text. -/
inductive Endpoint
  | health
  | readiness
  | listWorkPackages
  | runDocument
  | listQueries
  | defaultQuery
  | createQuery
  | showQuery (id : String)
  | updateQuery (id : String)
  | deleteQuery (id : String)
  | starQuery (id : String)
  | unstarQuery (id : String)
  | runQuery (id : String)
deriving DecidableEq, Repr

namespace Endpoint

/-- The methods offered at a path, given by its segments, with their endpoints. -/
def offered : List String → List (String × Endpoint)
  | ["healthz"] => [("GET", health)]
  | ["readyz"] => [("GET", readiness)]
  | ["work_packages"] => [("GET", listWorkPackages)]
  | ["work_packages", "query"] => [("POST", runDocument)]
  | ["queries"] => [("GET", listQueries), ("POST", createQuery)]
  | ["queries", id] =>
    let ofQuery := [("GET", showQuery id), ("PATCH", updateQuery id), ("DELETE", deleteQuery id)]
    if id = "" then [] else if id = "default" then ("GET", defaultQuery) :: ofQuery else ofQuery
  | ["queries", id, "star"] =>
    if id = "" then [] else [("POST", starQuery id), ("DELETE", unstarQuery id)]
  | ["queries", id, "work_packages"] => if id = "" then [] else [("GET", runQuery id)]
  | _ => []

/-- A segment without a line feed at its end, unless it is nothing else. -/
def withoutLineFeed (segment : String) : String :=
  match segment.toList.reverse with
  | '\n' :: last :: before => String.ofList (last :: before).reverse
  | _ => segment

/-- The segments of a path; a path starts with a slash, and a line feed at its end does not
count. -/
def segments (path : String) : List String :=
  match ((Text.partsBetween '/' path).drop 1).reverse with
  | last :: before => (withoutLineFeed last :: before).reverse
  | [] => []

/-- The path without the slashes at its end. -/
def withoutSlashes (path : String) : String :=
  String.ofList (Text.trimEnd (· == '/') path.toList)

/-- The endpoint of a method at a path. -/
def resolve (method path : String) : Except Refusal Endpoint :=
  let direct := offered (segments path)
  let offers := if direct.isEmpty then offered (segments (withoutSlashes path)) else direct
  if offers.isEmpty then .error .pathUnknown
  else
    match offers.lookup method with
    | some endpoint => .ok endpoint
    | none => .error .methodUnknown

/-- Whether the endpoint reads the body of a request. -/
def readsBody : Endpoint → Bool
  | runDocument | createQuery | updateQuery _ => true
  | _ => false

/-- Whether the endpoint asks who makes a request. -/
def asksRequester : Endpoint → Bool
  | health | readiness | defaultQuery => false
  | _ => true

end Endpoint

end WorkQuery.Service
