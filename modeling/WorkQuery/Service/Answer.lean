/-
This file carries requests out. The service is a pure step: from the tables, the saved queries and
a request it gives a response and the saved queries afterwards. A change to the saved queries takes
effect before its answer is made, so that an answer which cannot be made does not take it back.
-/

import WorkQuery.Query.Document
import WorkQuery.Saved.Store
import WorkQuery.Service.Arguments
import WorkQuery.Service.Draft
import WorkQuery.Service.Endpoint
import WorkQuery.Table.Listing
import WorkQuery.Text.Encoding

namespace WorkQuery.Service

open CompactForm Json Number Schema

/-! ### The service -/

/-- What the service works on: the tables, the saved queries, the time on its clock in seconds, and
whether all refusals are answered in the uniform style. -/
structure State where
  database : Database
  saved : SavedRows
  now : Int
  uniform : Bool

/-- A reply to a request that can be carried out, or why it cannot, with the saved queries
afterwards. -/
structure Outcome where
  reply : Except Refusal (Nat × Value)
  saved : SavedRows

namespace Outcome

/-- The outcome that leaves the saved queries as they are. -/
def unchanged (saved : SavedRows) (reply : Except Refusal Value) : Outcome :=
  ⟨reply.map fun body => (200, body), saved⟩

/-- A refusal; the saved queries stay as they are. -/
def refused (saved : SavedRows) (refusal : Refusal) : Outcome :=
  ⟨.error refusal, saved⟩

end Outcome

/-! ### Answers -/

/-- Filters of a saved query in an answer. The properties are names of members, where half of a
surrogate pair gives way to replacement characters. -/
def savedFilters (filters : FilterSet) : Value :=
  match filtersValue filters with
  | .list entries => .list (entries.map fun
    | .object fields => .object (fields.map fun (name, value) => (Text.withoutHalves name, value))
    | entry => entry)
  | value => value

/-- A saved query in an answer, but for the two times that the store keeps of the row. -/
def rowAnswer (row : SavedRow) : Except Refusal Value := do
  let query ← row.toQuery.mapError Refusal.ofFailure
  return .object [
    ("id", .int row.id),
    ("user_id", .int row.userId),
    ("name", .text query.name),
    ("project_id", .ofOption .int query.projectId),
    ("visibility", .text query.visibility.name),
    ("starred", .bool query.starred),
    ("display", .text query.display.name),
    ("filters", savedFilters query.filters),
    ("sortBy", sortsValue query.sorts),
    ("columns", .texts query.columns.names),
    ("groupBy", .ofOption .text query.grouping.property),
    ("highlighting_mode", .text query.highlighting.mode.name),
    ("timeline_zoom_level", .text query.zoom.name),
    ("show_timeline", .bool query.showTimeline),
    ("include_subprojects", .bool query.includeSubprojects),
    ("show_hierarchies", .bool query.showHierarchies),
    ("show_sums", .bool query.showSums)]

/-- A page of work packages in an answer, with the query that it answers. -/
def pageAnswer (query : Query) (page : Page WorkPackage) : Except Refusal Value := do
  let pages ← (page.request.pages page.total).mapError Refusal.ofFailure
  return .object [
    ("total", .int page.total),
    ("page", .int page.request.page),
    ("pages", .int pages),
    ("limit", .int page.request.limit),
    ("offset", .int page.request.offset),
    ("filters", filtersValue query.filters),
    ("sortBy", sortsValue query.sorts),
    ("groupBy", .ofOption .text query.grouping.property),
    ("items", .list (page.items.map WorkPackage.toValue))]

/-- The query that lists start from before it is saved. -/
def defaultAnswer : Value :=
  let query := Query.plain "Default"
  .object [
    ("name", .text query.name),
    ("filters", filtersValue query.filters),
    ("sortBy", sortsValue query.sorts),
    ("columns", .texts query.columns.names),
    ("display", .text query.display.name),
    ("starred", .bool false)]

/-! ### Work packages -/

/-- Runs a query and answers with the page. -/
def runAnswer (state : State) (user : Option Int) (query : Query) (page : PageRequest) :
    Except Refusal Value := do
  let result ← (state.database.run query page user).mapError Refusal.ofFailure
  pageAnswer query result

/-- The query of the parameters of a list. -/
def listedQuery (request : Request) : Checked Query := do
  let sorts ← parseSorts (parameterValue request "sortBy")
  let filters ← parseFilters (parameterValue request "filters")
  let property := (parameter? request "groupBy").filter (· != "")
  return { Query.plain "Work packages" with
    filters, sorts := sorts.orStandard, grouping := ⟨property, false⟩ }

/-- Lists work packages. -/
def listWorkPackages (state : State) (user : Option Int) (request : Request) :
    Except Refusal Value := do
  let page ← (pageArgument request).mapError Refusal.ofArgumentFailure
  let query ← (listedQuery request).mapError Refusal.ofFailure
  runAnswer state user query page

/-- Runs a query document. -/
def runDocument (state : State) (user : Option Int) (request : Request) (body : Option Value) :
    Except Refusal Value := do
  let (page, document) ← (both ((pageArgument request).map Prod.mk)
    (bodyArgument body documentBody)).mapError Refusal.ofArgumentFailure
  let query ← (Query.ofDocument document).mapError Refusal.ofFailure
  runAnswer state user query page

/-! ### Reading saved queries -/

/-- The saved queries, if the store has its tables and can be asked with the numbers at hand. -/
def readable (state : State) (numbers : List Int) : Except Refusal SavedRows :=
  if state.database.tables.isSome && numbers.all fitsWord then .ok state.saved
  else .error .unexpected

/-- Lists the saved queries that a requester may see. -/
def listQueries (state : State) (user : Option Int) (request : Request) :
    Except Refusal Value := do
  let project ← (integerParameter request "project_id").mapError Refusal.ofArgumentFailure
  let rows ← readable state (user.toList ++ project.toList)
  let answers ← (rows.visible user project).mapM rowAnswer
  return .list answers

/-- The saved query that a request names, if the requester may see it. -/
def visibleRow (state : State) (user : Option Int) (id : Int) : Except Refusal SavedRow := do
  let rows ← readable state [id]
  match rows.getVisible? id user with
  | some row => return row
  | none => .error .queryUnknown

/-- The saved query that a request names, if it belongs to the requester. -/
def ownedRow (state : State) (user : Int) (id : Int) : Except Refusal SavedRow := do
  let rows ← readable state [id]
  match rows.getOwned? id user with
  | some row => return row
  | none => .error .queryUnknown

/-- Shows a saved query. -/
def showQuery (state : State) (user : Option Int) (id : String) : Except Refusal Value := do
  let id ← (queryIdArgument id).mapError Refusal.ofArgumentFailure
  let row ← visibleRow state user id
  rowAnswer row

/-- Runs a saved query. -/
def runQuery (state : State) (user : Option Int) (request : Request) (id : String) :
    Except Refusal Value := do
  let (page, id) ← (both ((pageArgument request).map Prod.mk)
    (queryIdArgument id)).mapError Refusal.ofArgumentFailure
  let row ← visibleRow state user id
  let query ← row.toQuery.mapError Refusal.ofFailure
  runAnswer state user query page

/-! ### Changing saved queries -/

/-- A row as it is stored. The property that its rows are grouped by is sent to the store as a text,
which half of a surrogate pair cannot be. -/
def storable (row : SavedRow) : Except Refusal SavedRow :=
  if row.content.groupBy.any Text.holdsHalf then .error .unexpected else .ok row

/-- The row that a draft becomes: everything up to the point where it is stored. -/
def draftedRow (state : State) (user : Int) (body : Option Value) : Except Refusal SavedRow := do
  let draft ← (bodyArgument body Draft.ofValue).mapError Refusal.ofArgumentFailure
  let query ← draft.toQuery.mapError Refusal.ofFailure
  let rows ← readable state (user :: draft.projectId.toList)
  storable (rows.newRow user (query.withUser user))

/-- Saves a query. The row is stored before it is read back for the answer. -/
def createQuery (state : State) (user : Int) (body : Option Value) : Outcome :=
  match draftedRow state user body with
  | .error refusal => .refused state.saved refusal
  | .ok row => ⟨(rowAnswer row).map fun answer => (201, answer), state.saved ++ [row]⟩

/-- The row that a change makes of a saved query: everything up to the point where it is stored. -/
def changedRow (state : State) (user : Int) (id : String) (body : Option Value) :
    Except Refusal SavedRow := do
  let (id, change) ← (both ((queryIdArgument id).map Prod.mk)
    (bodyArgument body Change.ofValue)).mapError Refusal.ofArgumentFailure
  let row ← ownedRow state user id
  let query ← row.toQuery.mapError Refusal.ofFailure
  let changed ← (change.apply query).mapError Refusal.ofFailure
  storable (row.update changed)

/-- Stores a changed row and answers with it. -/
def store (state : State) : Except Refusal SavedRow → Outcome
  | .error refusal => .refused state.saved refusal
  | .ok row => .unchanged (state.saved.put row) (rowAnswer row)

/-- The saved query that a path names, if it belongs to the requester. -/
def namedRow (state : State) (user : Int) (id : String) : Except Refusal SavedRow := do
  let id ← (queryIdArgument id).mapError Refusal.ofArgumentFailure
  ownedRow state user id

/-- Deletes a saved query. -/
def deleteQuery (state : State) (user : Int) (id : String) : Outcome :=
  match namedRow state user id with
  | .error refusal => .refused state.saved refusal
  | .ok row =>
    .unchanged (state.saved.erase row.id) (.ok (.object [("detail", .text "Query deleted")]))

/-! ### Requests -/

/-- An endpoint that needs a requester. -/
def authenticated (saved : SavedRows) (user : Option Int) (answer : Int → Outcome) : Outcome :=
  match user with
  | some id => answer id
  | none => .refused saved .unauthenticated

/-- The outcome of an endpoint for a requester. -/
def answer (state : State) (user : Option Int) (request : Request) (body : Option Value) :
    Endpoint → Outcome
  | .health => .unchanged state.saved (.ok (.object [("status", .text "ok")]))
  | .readiness =>
    .unchanged state.saved (.ok (.object [("status", .text "ok"), ("db", .text "ok")]))
  | .listWorkPackages => .unchanged state.saved (listWorkPackages state user request)
  | .runDocument => .unchanged state.saved (runDocument state user request body)
  | .listQueries => .unchanged state.saved (listQueries state user request)
  | .defaultQuery => .unchanged state.saved (.ok defaultAnswer)
  | .createQuery => authenticated state.saved user fun user => createQuery state user body
  | .showQuery id => .unchanged state.saved (showQuery state user id)
  | .updateQuery id => authenticated state.saved user fun user =>
    store state (changedRow state user id body)
  | .deleteQuery id => authenticated state.saved user fun user => deleteQuery state user id
  | .starQuery id => authenticated state.saved user fun user =>
    store state ((namedRow state user id).map fun row => row.withStar true)
  | .unstarQuery id => authenticated state.saved user fun user =>
    store state ((namedRow state user id).map fun row => row.withStar false)
  | .runQuery id => .unchanged state.saved (runQuery state user request id)

/-- The user that a request comes from, as far as the endpoint asks for it. -/
def requester (state : State) (request : Request) (endpoint : Endpoint) :
    Except Refusal (Option Int) :=
  match endpoint.asksRequester, request.token with
  | true, some token => (userOfToken state.now token).mapError fun _ => .unexpected
  | _, _ => .ok none

/-- The endpoint and the body of a request. Bodies are read before anything else is looked at. -/
def opened (request : Request) : Except Refusal (Endpoint × Option Value) := do
  let endpoint ← Endpoint.resolve request.method request.path
  let body ← if endpoint.readsBody then bodyValue request.body else .ok none
  return (endpoint, body)

/-- The part of a value that a path leads to. -/
def partAt? : List Step → Value → Option Value
  | [], value => some value
  | .field name :: path, value => (value.member? name).bind (partAt? path)
  | .index position :: path, .list items => items[position]?.bind (partAt? path)
  | .index _ :: _, _ => none

/-- Whether the answer to an issue shows half of a surrogate pair. It shows the part of the body
that the issue is about: the value at its place, or the one in which a member is missing. -/
def showsHalf (body : Value) (issue : Issue) : Bool :=
  match issue.path with
  | .field "body" :: path =>
    let path := if issue.cause = .missing then path.dropLast else path
    (partAt? path body).any Value.holdsHalf
  | _ => false

namespace Outcome

/-- Whether the reply can be written; half of a surrogate pair cannot. -/
def isWritable (uniform : Bool) (body : Option Value) (outcome : Outcome) : Bool :=
  match outcome.reply with
  | .ok (_, value) => !value.holdsHalf
  | .error refusal =>
    match refusal.content uniform with
    | .json value => !value.holdsHalf
    | .issues found => !found.any (showsHalf (body.getD .null))
    | .text _ => true

/-- The outcome as it is answered. A reply that cannot be written becomes a failure, though the
request has been carried out. -/
def written (uniform : Bool) (body : Option Value) (outcome : Outcome) : Outcome :=
  if outcome.isWritable uniform body then outcome
  else { outcome with reply := .error .unexpected }

end Outcome

/-- The outcome of a request. -/
def outcome (state : State) (request : Request) : Outcome :=
  match opened request with
  | .error refusal => .refused state.saved refusal
  | .ok (endpoint, body) =>
    match requester state request endpoint with
    | .error refusal => .refused state.saved refusal
    | .ok user => (answer state user request body endpoint).written state.uniform body

/-- The response as a method lets it be seen: to `HEAD` there is no content. -/
def Response.shownTo (method : String) (response : Response) : Response :=
  if method = "HEAD" then { response with content := .text "" } else response

/-- The response to a request and the service afterwards. -/
def step (state : State) (request : Request) : Response × State :=
  let outcome := outcome state request
  let response : Response := match outcome.reply with
    | .ok (status, body) => ⟨status, .json body, false⟩
    | .error refusal => refusal.response state.uniform
  (response.shownTo request.method, { state with saved := outcome.saved })

/-- The responses to a list of requests, one after the other, and the service afterwards. -/
def run (state : State) : List Request → List Response × State
  | [] => ([], state)
  | request :: requests =>
    let (response, state) := step state request
    let (responses, state) := run state requests
    (response :: responses, state)

end WorkQuery.Service
