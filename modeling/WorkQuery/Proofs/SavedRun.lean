/-
This file proves that a saved query runs as the list that it was made from. A query that is saved
with filters and a sort order keeps them, through whatever requests, for as long as it is neither
patched nor deleted (`exists_star_of_follows`). It is read back with the conditions and the sort
keys of the list with the same filters and sort order, so that both select the same work packages,
put them into the same order and cut them into the same pages (`saved_runs_as_listed`).
-/

import WorkQuery.Proofs.FaultyRows
import WorkQuery.Proofs.StoredCondition
import WorkQuery.Proofs.TableChange

namespace WorkQuery.Service

open CompactForm Json Number Schema

variable {state : State}

/-! ### Methods -/

theorem lookup_head (segments : List String) :
    (Endpoint.offered segments).lookup "HEAD" = none := by
  unfold Endpoint.offered
  repeat' split
  all_goals rfl

theorem exists_offered_of_resolve {method path : String} {endpoint : Endpoint}
    (resolves : Endpoint.resolve method path = .ok endpoint) :
    ∃ segments, (Endpoint.offered segments).lookup method = some endpoint := by
  have offers : ∃ segments, (if (Endpoint.offered (Endpoint.segments path)).isEmpty
      then Endpoint.offered (Endpoint.segments (Endpoint.withoutSlashes path))
      else Endpoint.offered (Endpoint.segments path)) = Endpoint.offered segments := by
    split <;> exact ⟨_, rfl⟩
  obtain ⟨segments, same⟩ := offers
  refine ⟨segments, ?_⟩
  unfold Endpoint.resolve at resolves
  dsimp only at resolves
  rw [same] at resolves
  generalize Endpoint.offered segments = offers at resolves ⊢
  split at resolves
  · cases resolves
  · cases found : offers.lookup method with
    | none =>
      rw [found] at resolves
      cases resolves
    | some other =>
      rw [found] at resolves
      rw [Except.ok.inj resolves]

/-- A request that finds an endpoint is answered with what the endpoint replies. -/
theorem content_of_reply {request : Request} {endpoint : Endpoint} {status : Nat} {value : Value}
    (resolves : Endpoint.resolve request.method request.path = .ok endpoint)
    (replied : (outcome state request).reply = .ok (status, value)) :
    (step state request).1.content = .json value := by
  have shown : request.method ≠ "HEAD" := by
    intro head
    obtain ⟨segments, found⟩ := exists_offered_of_resolve resolves
    rw [head, lookup_head] at found
    cases found
  unfold step Response.shownTo
  dsimp only
  rw [replied, if_neg shown]

/-- A request that succeeds is answered with what its endpoint replies, for a requester who is told,
and the table is what the endpoint leaves of it. -/
theorem exists_answer_of_success {request : Request} {endpoint : Endpoint} {body : Option Value}
    (opens : opened request = .ok (endpoint, body))
    (success : (step state request).1.status < 400) :
    ∃ user value, requester state request endpoint = .ok user ∧
      (answer state user request body endpoint).reply =
        .ok ((step state request).1.status, value) ∧
      (step state request).1.content = .json value ∧
      (step state request).2.saved = (answer state user request body endpoint).saved := by
  cases told : requester state request endpoint with
  | error refusal =>
    have refused : outcome state request = .refused state.saved refusal := by
      unfold outcome
      rw [opens]
      dsimp only
      rw [told]
    rw [status_step, refused] at success
    exact absurd success (not_lt.mpr (status_refusal refusal))
  | ok user =>
    have outcomes := outcome_of_opened opens told
    rw [status_step] at success ⊢
    cases replied : (outcome state request).reply with
    | error refusal =>
      rw [replied] at success
      exact absurd success (not_lt.mpr (status_refusal refusal))
    | ok reply =>
      obtain ⟨status, value⟩ := reply
      have content := content_of_reply (resolves_of_opened opens) replied
      rw [outcomes] at replied
      refine ⟨user, value, rfl, (reply_written.mp replied).1, content, ?_⟩
      change (outcome state request).saved = _
      rw [outcomes, saved_written]

/-! ### Saving -/

/-- A request saves a query with filters and a sort order in their compact forms. -/
structure Saves (state : State) (request : Request) (filters : List Value)
    (criteria : List (List String)) : Prop where
  body : ∃ fields : Fields, opened request = .ok (.createQuery, some (.object fields)) ∧
    fields.get? "filters" = some (.list filters) ∧
    fields.get? "sortBy" = some (.list (criteria.map .texts))
  status : (step state request).1.status = 201

/-- A row keeps a query that has been made from filters and a sort order in their compact forms, and
that is read back. -/
structure KeepsForms (filters : List Value) (criteria : List (List String)) (row : SavedRow)
    (query : Query) : Prop where
  content : row.content = .ofQuery query
  parsed : query.IsParsed
  filters : parseFilters (.list filters) = .ok query.filters
  sorts : sortsOf criteria = .ok query.sorts
  whole : query.grouping.property.any Text.holdsHalf = false
  readable : ∃ again, parseFilters (filtersValue query.filters) = .ok again

theorem keepsForms_withStar {filters : List Value} {criteria : List (List String)} {row : SavedRow}
    {query : Query} (keeps : KeepsForms filters criteria row query) (starred : Bool) :
    KeepsForms filters criteria (row.withStar starred) (query.withStar starred) where
  content := SavedRow.content_withStar keeps.content starred
  parsed := ⟨keeps.parsed.name, keeps.parsed.filters, keeps.parsed.sorts, keeps.parsed.columns⟩
  filters := keeps.filters
  sorts := keeps.sorts
  whole := keeps.whole
  readable := keeps.readable

theorem Draft.forms_of_toQuery {draft : Draft} {query : Query}
    (read : draft.toQuery = .ok query) :
    parseFilters (.list draft.filters) = .ok query.filters ∧
      sortsOf draft.sortBy = .ok query.sorts := by
  obtain ⟨filters, sorts, columns, readFilters, readSorts, -, rfl⟩ := exists_parts_of_toQuery read
  exact ⟨readFilters, readSorts⟩

/-- What a drafted row keeps, if it is read back. -/
theorem keepsForms_of_drafted {user : Int} {fields : Fields} {row : SavedRow} {stored : Query}
    {filters : List Value} {criteria : List (List String)}
    (drafted : draftedRow state user (some (.object fields)) = .ok row)
    (givenFilters : fields.get? "filters" = some (.list filters))
    (givenCriteria : fields.get? "sortBy" = some (.list (criteria.map .texts)))
    (readBack : row.toQuery = .ok stored) :
    ∃ query, KeepsForms filters criteria row query := by
  obtain ⟨_, draft, query, same, readDraft, readQuery, rfl, whole⟩ :=
    exists_query_of_draftedRow drafted
  obtain rfl := Option.some.inj same
  obtain ⟨rfl, rfl⟩ := Draft.filters_sortBy readDraft givenFilters givenCriteria
  obtain ⟨readFilters, readSorts⟩ := Draft.forms_of_toQuery readQuery
  have parsed := Query.isParsed_withUser
    (Draft.isParsed (Draft.holdsHalf_name readDraft) readQuery) user
  refine ⟨query.withUser user, rfl, parsed, readFilters, readSorts, whole, ?_⟩
  rw [SavedRow.toQuery_ofQuery rfl parsed] at readBack
  obtain ⟨again, readAgain, -⟩ := map_eq_ok.mp readBack
  exact ⟨again, readAgain⟩

/-- A reply that is given where queries are saved tells of the row that has been added. -/
theorem exists_drafted_of_reply {user : Option Int} {request : Request} {body : Option Value}
    {status : Nat} {value : Value}
    (replied : (answer state user request body .createQuery).reply = .ok (status, value)) :
    ∃ id row, user = some id ∧ draftedRow state id body = .ok row ∧ rowAnswer row = .ok value ∧
      (answer state user request body .createQuery).saved = state.saved ++ [row] := by
  cases user with
  | none => cases replied
  | some id =>
    change (createQuery state id body).reply = _ at replied
    change ∃ owner row, _ ∧ _ ∧ _ ∧ (createQuery state id body).saved = _
    unfold createQuery at replied ⊢
    cases drafted : draftedRow state id body with
    | error refusal =>
      rw [drafted] at replied
      cases replied
    | ok row =>
      rw [drafted] at replied
      exact ⟨id, row, rfl, drafted, (map_status_eq_ok.mp replied).1, rfl⟩

/-- The answer with a row tells the number of the row. -/
theorem id_of_rowAnswer {row : SavedRow} {answer : Value} (shown : rowAnswer row = .ok answer) :
    answer.member? "id" = some (.int row.id) := by
  obtain ⟨query, -, shown⟩ := bind_eq_ok.mp shown
  rw [← Except.ok.inj shown]
  rfl

/-- A request that saves a query adds a row which keeps the query, and tells its number. -/
theorem exists_row_of_saves {request : Request} {filters : List Value}
    {criteria : List (List String)} (saves : Saves state request filters criteria) :
    ∃ row query answer, (step state request).2.saved = state.saved ++ [row] ∧
      (step state request).1.content = .json answer ∧ answer.member? "id" = some (.int row.id) ∧
      KeepsForms filters criteria row query := by
  obtain ⟨⟨fields, opens, givenFilters, givenCriteria⟩, created⟩ := saves
  obtain ⟨user, value, -, replied, content, saved⟩ :=
    exists_answer_of_success opens (created.trans_lt (by decide))
  obtain ⟨id, row, -, drafted, answered, added⟩ := exists_drafted_of_reply replied
  obtain ⟨stored, readBack, -⟩ := bind_eq_ok.mp answered
  obtain ⟨query, keeps⟩ := keepsForms_of_drafted drafted givenFilters givenCriteria
    (mapError_eq_ok.mp readBack)
  exact ⟨row, query, value, saved.trans added, content, id_of_rowAnswer answered, keeps⟩

/-! ### Keeping -/

/-- A request spares a saved query if it neither patches nor deletes it: where it asks for that, it
changes nothing. -/
def Spares (id : Int) (state : State) (request : Request) : Prop :=
  ∀ written, queryIdArgument written = .ok id →
    (Endpoint.resolve request.method request.path = .ok (.updateQuery written) ∨
      Endpoint.resolve request.method request.path = .ok (.deleteQuery written)) →
    (step state request).2.saved = state.saved

/-- Putting a row with another star in its place gives the row with that star. -/
theorem mem_put_withStar {rows : SavedRows} (distinct : (rows.map SavedRow.id).Nodup)
    {row old : SavedRow} {starred : Bool} (member : row.withStar starred ∈ rows)
    (inside : old ∈ rows) (starredNow : Bool) :
    ∃ starred, row.withStar starred ∈ rows.put (old.withStar starredNow) := by
  by_cases same : row.id = old.id
  · have equal : old = row.withStar starred :=
      List.inj_on_of_nodup_map distinct inside member same.symm
    refine ⟨starredNow, ?_⟩
    rw [equal]
    exact mem_put_self member rfl
  · exact ⟨starred, mem_put_iff.mpr (.inl ⟨member, same⟩)⟩

/-- A query that is spared stays in the table, but for its star. -/
theorem exists_star_step (distinct : (state.saved.map SavedRow.id).Nodup) {request : Request}
    {row : SavedRow} {starred : Bool} (member : row.withStar starred ∈ state.saved)
    (spares : Spares row.id state request) :
    ∃ starred, row.withStar starred ∈ (step state request).2.saved := by
  by_cases unchanged : (step state request).2.saved = state.saved
  · exact ⟨starred, unchanged ▸ member⟩
  · rcases changes_step state request with same | ⟨endpoint, body, user, opens, -, changes⟩
    · exact absurd same unchanged
    · have resolves := resolves_of_opened opens
      have spared : ∀ written, endpoint = .updateQuery written ∨ endpoint = .deleteQuery written →
          queryIdArgument written ≠ .ok row.id := by
        intro written touches named
        refine unchanged (spares written named ?_)
        rw [resolves]
        exact touches.imp (congrArg Except.ok) (congrArg Except.ok)
      generalize (step state request).2.saved = rows at changes unchanged ⊢
      cases changes with
      | added => exact ⟨starred, List.mem_append_left _ member⟩
      | @changed id _ made updated =>
        obtain ⟨number, value, change, old, query, changed, readNumber, -, -, found, -, -, isMade,
          -⟩ := exists_update_of_changedRow updated
        have different : row.id ≠ made.id := by
          rw [isMade, SavedRow.id_update, id_of_ownedRow found]
          rintro same
          exact spared id (.inl rfl) (same ▸ readNumber)
        exact ⟨starred, mem_put_iff.mpr (.inl ⟨member, different⟩)⟩
      | starred named => exact mem_put_withStar distinct member (mem_of_namedRow named) true
      | unstarred named => exact mem_put_withStar distinct member (mem_of_namedRow named) false
      | @removed id _ other named =>
        obtain ⟨number, readNumber, found⟩ := bind_eq_ok.mp named
        have different : row.id ≠ other.id := by
          rw [id_of_ownedRow found]
          rintro same
          exact spared id (.inr rfl) (same ▸ mapError_eq_ok.mp readNumber)
        exact ⟨starred, List.mem_filter.mpr ⟨member, bne_iff_ne.mpr different⟩⟩

/-- A query that is spared by all requests stays in the table, but for its star. -/
theorem exists_star_of_follows {rows later : SavedRows} (distinct : (rows.map SavedRow.id).Nodup)
    {row : SavedRow} (follows : Follows (Spares row.id) rows later) (member : row ∈ rows) :
    (later.map SavedRow.id).Nodup ∧ ∃ starred, row.withStar starred ∈ later := by
  induction follows with
  | refl => exact ⟨distinct, row.content.starred, member⟩
  | step before allows inductionHypothesis =>
    obtain ⟨distinctBefore, starred, memberBefore⟩ := inductionHypothesis
    exact ⟨nodup_step distinctBefore _, exists_star_step distinctBefore memberBefore allows⟩

/-! ### Running -/

/-- A request runs the saved query of a number, as it is written in the path, for a requester. -/
structure RunsSaved (state : State) (request : Request) (written : String) (id : Int)
    (user : Option Int) : Prop where
  endpoint : Endpoint.resolve request.method request.path = .ok (.runQuery written)
  named : queryIdArgument written = .ok id
  told : requester state request (.runQuery written) = .ok user

/-- A request lists work packages for a requester, with filters and a sort order as texts. -/
structure ListsForms (state : State) (request : Request) (filters : List Value)
    (criteria : List (List String)) (user : Option Int) : Prop where
  endpoint : Endpoint.resolve request.method request.path = .ok .listWorkPackages
  told : requester state request .listWorkPackages = .ok user
  filters : ∃ written, parameter? request "filters" = some written ∧
    Json.read .request written = .ok (.list filters)
  criteria : ∃ written, parameter? request "sortBy" = some written ∧
    Json.read .request written = .ok (.list (criteria.map .texts))
  groupBy : parameter? request "groupBy" = none

/-- What both answers tell of a page. -/
def pageMembers : List String := ["total", "page", "pages", "items"]

/-- Two replies with a page: the same refusal, or answers with the same page, both or neither of
which can be written. -/
inductive SamePage : Except Refusal Value → Except Refusal Value → Prop
  | refused (refusal : Refusal) : SamePage (.error refusal) (.error refusal)
  | answered {left right : Value}
    (same : ∀ name ∈ pageMembers, ∃ value, left.member? name = some value ∧
      right.member? name = some value)
    (half : left.holdsHalf = right.holdsHalf) : SamePage (.ok left) (.ok right)

theorem holdsHalf_filtersValue (filters : FilterSet) :
    (filtersValue filters).holdsHalf = (filters.filters.map fun filter =>
      (filterValue filter).holdsHalf).any id := by
  rw [filtersValue, Value.holdsHalf, Value.itemsHoldHalf_eq_any, List.any_map, List.any_map]
  rfl

/-- What is written of stored filters holds a half exactly if what is written of the filters
does. -/
theorem holdsHalf_filtersValue_stored {filters again : FilterSet}
    (read : ∀ filter ∈ filters.filters, IsRead filter)
    (parsed : parseFilters (filtersValue filters) = .ok again) :
    (filtersValue again).holdsHalf = (filtersValue filters).holdsHalf := by
  have same (filter other : Filter) (isRead : IsRead filter)
      (parsedOne : parseMember filter.property (memberBody filter) = .ok other) :
      (filterValue other).holdsHalf = (filterValue filter).holdsHalf := by
    change (Value.object [(other.property, memberBody other)]).holdsHalf =
      (Value.object [(filter.property, memberBody filter)]).holdsHalf
    simp only [Value.holdsHalf, Value.fieldsHoldHalf, holdsHalf_memberBody,
      givenTexts_parseMember isRead parsedOne, (parseMember_eq_ok parsedOne).1]
  rw [holdsHalf_filtersValue, holdsHalf_filtersValue,
    map_of_parseFilters (fun filter member other => same filter other (read filter member)) parsed]

theorem holdsHalf_pageNames :
    ["total", "page", "pages", "limit", "offset", "filters", "sortBy", "groupBy", "items"].any
      Text.holdsHalf = false := by
  decide

/-- Two queries that select alike have the same page, if they show the same texts. -/
theorem samePage_runAnswer {user : Option Int} {left right : Query} (page : PageRequest)
    (conditions : Sql.filterConditions user left.filters = Sql.filterConditions user right.filters)
    (sorts : left.sorts = right.sorts)
    (filters : (filtersValue left.filters).holdsHalf = (filtersValue right.filters).holdsHalf)
    (groups : left.grouping.property.any Text.holdsHalf =
      right.grouping.property.any Text.holdsHalf) :
    SamePage (runAnswer state user left page) (runAnswer state user right page) := by
  have ran : state.database.run left page user = state.database.run right page user := by
    unfold Database.run Sql.select
    dsimp only
    rw [conditions, sorts]
  unfold runAnswer
  rw [ran]
  cases state.database.run right page user with
  | error failure => exact .refused _
  | ok found =>
    change SamePage (pageAnswer left found) (pageAnswer right found)
    unfold pageAnswer
    cases found.request.pages found.total with
    | error failure => exact .refused _
    | ok pages =>
      refine .answered ?_ ?_
      · simp [pageMembers, Value.member?, Fields.get?]
      · rw [Value.holdsHalf_object (by exact holdsHalf_pageNames),
          Value.holdsHalf_object (by exact holdsHalf_pageNames)]
        simp only [List.any_cons, Value.holdsHalf_ofOption_text, filters, sorts, groups]

/-! ### Both at once -/

/-- What a saved query is read back as, with its star changed, has the conditions and the sort order
of the list of its filters and sort order, and shows the same texts. -/
theorem exists_stored_of_keepsForms {filters : List Value} {criteria : List (List String)}
    {row : SavedRow} {query : Query} (keeps : KeepsForms filters criteria row query) :
    ∃ stored, row.toQuery = .ok stored ∧ stored.sorts = query.sorts ∧
      (∀ user, Sql.filterConditions user stored.filters =
        Sql.filterConditions user query.filters) ∧
      (filtersValue stored.filters).holdsHalf = (filtersValue query.filters).holdsHalf ∧
      stored.grouping.property.any Text.holdsHalf = false := by
  obtain ⟨again, readAgain⟩ := keeps.readable
  refine ⟨query.ofRow row again, ?_, rfl, ?_, ?_, keeps.whole⟩
  · rw [SavedRow.toQuery_ofQuery keeps.content keeps.parsed, readAgain]
    rfl
  · exact Sql.filterConditions_stored keeps.parsed.filters readAgain
  · exact holdsHalf_filtersValue_stored keeps.parsed.filters readAgain

theorem entries_of_read {subject written : String} {items : List Value}
    (read : Json.read .request written = .ok (.list items)) :
    entries subject (.text written) = entries subject (.list items) := by
  have nonempty : written ≠ "" := by
    rintro rfl
    cases read
  unfold entries
  dsimp only
  rw [if_neg nonempty, read]

theorem parameterValue_of_given {request : Request} {name written : String}
    (given : parameter? request name = some written) :
    parameterValue request name = .text written := by
  rw [parameterValue, given]
  rfl

/-- The query of a list that is asked for with the forms of a query has the filters and the sort
order of that query. -/
theorem listedQuery_of_listsForms {request : Request} {filters : List Value}
    {criteria : List (List String)} {user : Option Int} {query : Query}
    (lists : ListsForms state request filters criteria user)
    (readFilters : parseFilters (.list filters) = .ok query.filters)
    (readCriteria : sortsOf criteria = .ok query.sorts) :
    listedQuery request = .ok { Query.plain "Work packages" with
      filters := query.filters, sorts := query.sorts } := by
  obtain ⟨writtenFilters, givenFilters, readText⟩ := lists.filters
  obtain ⟨writtenCriteria, givenCriteria, readCriteriaText⟩ := lists.criteria
  obtain ⟨sorts, parsed, ordered⟩ := map_eq_ok.mp readCriteria
  have parsedText : parseSorts (.text writtenCriteria) = .ok sorts := by
    unfold parseSorts at parsed ⊢
    rw [entries_of_read readCriteriaText]
    exact parsed
  have parsedFilters : parseFilters (.text writtenFilters) = .ok query.filters := by
    unfold parseFilters at readFilters ⊢
    rw [entries_of_read readText]
    exact readFilters
  unfold listedQuery
  rw [parameterValue_of_given givenFilters, parameterValue_of_given givenCriteria, parsedText,
    ok_bind, parsedFilters, ok_bind, lists.groupBy]
  rw [← ordered]
  rfl

theorem pageArgument_congr {first second : Request}
    (same : ∀ name ∈ ["page", "per_page"], parameter? first name = parameter? second name) :
    pageArgument first = pageArgument second := by
  have page := same "page" List.mem_cons_self
  have perPage := same "per_page" (List.mem_cons_of_mem _ List.mem_cons_self)
  unfold pageArgument boundedParameter
  rw [page, perPage]

theorem both_map_ok {First Second : Type} (first : Checked First) (second : Second) :
    both (first.map Prod.mk) (.ok second) = first.map fun first => (first, second) := by
  cases first with
  | ok first => rfl
  | error failure => cases failure <;> rfl

/-- The row that a requester is shown is the one of the number. -/
theorem eq_of_visibleRow (distinct : (state.saved.map SavedRow.id).Nodup) {user : Option Int}
    {id : Int} {row found : SavedRow} (shown : visibleRow state user id = .ok found)
    (member : row ∈ state.saved) (same : row.id = id) : found = row := by
  obtain ⟨rows, read, shown⟩ := bind_eq_ok.mp shown
  obtain rfl := eq_of_readable read
  split at shown
  · rename_i other seen
    have named := Option.eq_some_of_filter_eq_some seen
    rw [(SavedRows.get?_eq_some_iff distinct).mpr ⟨member, same⟩] at named
    rw [← Except.ok.inj shown, ← Option.some.inj named]
  · cases shown

/-- A saved query and the list of the forms that it was made from have the same page. -/
theorem samePage_of_keepsForms {user : Option Int} {id : Int} {written : String}
    {run list : Request} {filters : List Value} {criteria : List (List String)} {row : SavedRow}
    {query : Query} (keeps : KeepsForms filters criteria row query)
    (named : queryIdArgument written = .ok id) (shown : visibleRow state user id = .ok row)
    (lists : ListsForms state list filters criteria user)
    (pages : ∀ name ∈ ["page", "per_page"], parameter? run name = parameter? list name) :
    SamePage (runQuery state user run written) (listWorkPackages state user list) := by
  obtain ⟨stored, readBack, sorts, conditions, texts, whole⟩ := exists_stored_of_keepsForms keeps
  unfold runQuery listWorkPackages
  rw [named, both_map_ok, pageArgument_congr pages,
    listedQuery_of_listsForms lists keeps.filters keeps.sorts]
  cases pageArgument list with
  | error failure => exact .refused _
  | ok page =>
    change SamePage (visibleRow state user id >>= fun row =>
      row.toQuery.mapError Refusal.ofFailure >>= fun query => runAnswer state user query page)
      (runAnswer state user _ page)
    rw [shown, ok_bind, readBack]
    exact samePage_runAnswer page (conditions user) sorts texts whole

/-- Two responses with one status that have the same page if they are answers. -/
structure AnsweredAlike (first second : Response) : Prop where
  status : first.status = second.status
  page : first.status = 200 → ∃ left right, first.content = .json left ∧
    second.content = .json right ∧ ∀ name ∈ pageMembers, ∃ value,
      left.member? name = some value ∧ right.member? name = some value

theorem exists_reply_written (saved : SavedRows) (refusal : Refusal) (uniform : Bool)
    (body : Option Value) :
    ∃ shown, ((Outcome.unchanged saved (.error refusal)).written uniform body).reply =
      .error shown := by
  unfold Outcome.written
  split <;> exact ⟨_, rfl⟩

theorem reply_written_half {saved : SavedRows} {value : Value} {uniform : Bool}
    {body : Option Value} (half : value.holdsHalf = true) :
    ((Outcome.unchanged saved (.ok value)).written uniform body).reply = .error .unexpected := by
  have notWritable : ¬(Outcome.unchanged saved (.ok value)).isWritable uniform body = true := by
    change ¬(!value.holdsHalf) = true
    rw [half]
    exact Bool.false_ne_true
  rw [Outcome.written, if_neg notWritable]

/-- Requests whose replies have the same page are answered alike. -/
theorem answeredAlike_of_samePage {first second : Request} {left right : Except Refusal Value}
    {endpoint endpoint' : Endpoint} (same : SamePage left right)
    (resolves : Endpoint.resolve first.method first.path = .ok endpoint)
    (resolves' : Endpoint.resolve second.method second.path = .ok endpoint')
    (replied : outcome state first =
      (Outcome.unchanged state.saved left).written state.uniform none)
    (replied' : outcome state second =
      (Outcome.unchanged state.saved right).written state.uniform none) :
    AnsweredAlike (step state first).1 (step state second).1 := by
  have status := status_step state first
  have status' := status_step state second
  have refused {refusal : Refusal} (fails : (outcome state first).reply = .error refusal)
      (failsToo : (outcome state second).reply = .error refusal) :
      AnsweredAlike (step state first).1 (step state second).1 := by
    rw [fails] at status
    rw [failsToo] at status'
    refine ⟨status.trans status'.symm, fun success => ?_⟩
    have failure := status_refusal refusal
    rw [← show _ = refusal.status from status, success] at failure
    contradiction
  cases same with
  | refused refusal =>
    obtain ⟨shown, written⟩ := exists_reply_written state.saved refusal state.uniform none
    exact refused (replied ▸ written) (replied' ▸ written)
  | @answered left right members half =>
    cases whole : right.holdsHalf with
    | true =>
      rw [whole] at half
      exact refused (replied ▸ reply_written_half half) (replied' ▸ reply_written_half whole)
    | false =>
      rw [whole] at half
      have answered : (outcome state first).reply = .ok (200, left) :=
        replied ▸ reply_written.mpr ⟨rfl, half⟩
      have answeredToo : (outcome state second).reply = .ok (200, right) :=
        replied' ▸ reply_written.mpr ⟨rfl, whole⟩
      rw [answered] at status
      rw [answeredToo] at status'
      exact ⟨status.trans status'.symm, fun _ => ⟨left, right, content_of_reply resolves answered,
        content_of_reply resolves' answeredToo, members⟩⟩

/-- A request that saves a query with filters and a sort order adds a row and tells its number. From
then on, as long as the query is neither patched nor deleted, and whatever work packages there are:
whoever is shown the query, and runs it, is answered as by the list with the texts of these filters
and of this order, page by page. -/
theorem saved_runs_as_listed (distinct : (state.saved.map SavedRow.id).Nodup) {request : Request}
    {filters : List Value} {criteria : List (List String)}
    (saves : Saves state request filters criteria) :
    ∃ row answer, (step state request).2.saved = state.saved ++ [row] ∧
      (step state request).1.content = .json answer ∧ answer.member? "id" = some (.int row.id) ∧
      ∀ (later : State) (user : Option Int) (run list : Request) (written : String),
        Follows (Spares row.id) (step state request).2.saved later.saved →
        (∃ shown, visibleRow later user row.id = .ok shown) →
        RunsSaved later run written row.id user → ListsForms later list filters criteria user →
        (∀ name ∈ ["page", "per_page"], parameter? run name = parameter? list name) →
        AnsweredAlike (step later run).1 (step later list).1 := by
  obtain ⟨row, query, answer, saved, content, named, keeps⟩ := exists_row_of_saves saves
  refine ⟨row, answer, saved, content, named, ?_⟩
  intro later user run list written follows sees runs lists pages
  have member : row ∈ (step state request).2.saved := by
    rw [saved]
    exact List.mem_append_right _ List.mem_cons_self
  obtain ⟨distinctLater, starred, memberLater⟩ :=
    exists_star_of_follows (nodup_step distinct request) follows member
  obtain ⟨shown, sees⟩ := sees
  obtain rfl := eq_of_visibleRow distinctLater sees memberLater rfl
  have samePage := samePage_of_keepsForms (keepsForms_withStar keeps starred) runs.named sees lists
    pages
  exact answeredAlike_of_samePage samePage runs.endpoint lists.endpoint
    (outcome_of_bodiless runs.endpoint rfl runs.told)
    (outcome_of_bodiless lists.endpoint rfl lists.told)

/-- The filters of what is assigned to the requester. -/
def assignedFilters : List Value :=
  [.object [("assigned_to_id",
    .object [("operator", .text "="), ("values", .list [.text "me"])])]]

/-- A request by the user 5. -/
def ownRequest (method path : String) (parameters : List (String × String)) (body : Body) :
    Request :=
  ⟨method, path, parameters, body, some (issue [("sub", .text "5")] 1)⟩

/-- The user 5 saves a query for what is assigned to the requester, the newest first. -/
def assignedRequest : Request :=
  ownRequest "POST" "/queries" [] (.value (.object [("name", .text "Assigned"),
    ("filters", .list assignedFilters), ("sortBy", .list [.texts ["id", "desc"]])]))

/-- The user 5 stars the query. -/
def starRequest : Request := ownRequest "POST" "/queries/1/star" [] .absent

/-- The user 5 runs the query. -/
def assignedRun : Request := ownRequest "GET" "/queries/1/work_packages" [] .absent

/-- The text of the filters of that query. -/
def assignedText : String :=
  "[\x7b\"assigned_to_id\": \x7b\"operator\": \"=\", \"values\": [\"me\"]\x7d\x7d]"

/-- The user 5 asks for the list that the query was made from. -/
def assignedList : Request :=
  ownRequest "GET" "/work_packages"
    [("filters", assignedText), ("sortBy", "[[\"id\", \"desc\"]]")] .absent

/-- The service after the query has been saved and starred. -/
def assignedService : State :=
  (step (step freshService assignedRequest).2 starRequest).2

theorem saves_assigned : Saves freshService assignedRequest assignedFilters [["id", "desc"]] where
  body := ⟨_, rfl, rfl, rfl⟩
  status := by decide +kernel

theorem runsSaved_assigned : RunsSaved assignedService assignedRun "1" 1 (some 5) where
  endpoint := eq_ok_of_toOption (by decide +kernel)
  named := rfl
  told := rfl

theorem listsForms_assigned :
    ListsForms assignedService assignedList assignedFilters [["id", "desc"]] (some 5) where
  endpoint := eq_ok_of_toOption (by decide +kernel)
  told := rfl
  filters := ⟨assignedText, rfl, eq_ok_of_toOption (by decide +kernel)⟩
  criteria := ⟨"[[\"id\", \"desc\"]]", rfl, eq_ok_of_toOption (by decide +kernel)⟩
  groupBy := rfl

/-- The user 5 runs the saved query and is answered as by the list. -/
theorem saved_runs_as_listed_assigned :
    (step assignedService assignedRun).1.status = 200 ∧
      AnsweredAlike (step assignedService assignedRun).1 (step assignedService assignedList).1 := by
  have distinct : (freshService.saved.map SavedRow.id).Nodup := List.nodup_nil
  obtain ⟨row, answer, saved, -, -, alike⟩ := saved_runs_as_listed distinct saves_assigned
  have numbers : (step freshService assignedRequest).2.saved.map SavedRow.id = [1] := by
    decide +kernel
  rw [saved] at numbers
  have number : row.id = 1 := List.head_eq_of_cons_eq numbers
  rw [number] at alike
  have stars : Endpoint.resolve starRequest.method starRequest.path = .ok (.starQuery "1") :=
    eq_ok_of_toOption (by decide +kernel)
  have spares : Spares 1 (step freshService assignedRequest).2 starRequest := by
    rintro written - (updates | deletes)
    · cases stars.symm.trans updates
    · cases stars.symm.trans deletes
  have sees : ∃ shown, visibleRow assignedService (some 5) 1 = .ok shown := by
    have found : (visibleRow assignedService (some 5) 1).toOption.isSome = true := by
      decide +kernel
    obtain ⟨shown, found⟩ := Option.isSome_iff_exists.mp found
    exact ⟨shown, eq_ok_of_toOption found⟩
  have page : ∀ name ∈ ["page", "per_page"],
      parameter? assignedRun name = parameter? assignedList name := by decide
  have same := alike assignedService (some 5) assignedRun assignedList "1" (.step .refl spares) sees
    runsSaved_assigned listsForms_assigned page
  have listed : (step assignedService assignedList).1.status = 200 := by decide +kernel
  exact ⟨same.status.trans listed, same⟩

end WorkQuery.Service
