/-
This file compares the two ways in which a query comes to have the parts that a body gives: it is
saved with all of them, or it is saved with its name alone and changed afterwards. Both ways read a
body alike and fall back on the same parts, so they come to the same query, with one exception. A
change takes an empty name of a group for no grouping, a draft takes it as it is
(`changed_eq_regrouped`). So the answers are the same up to the number of the row exactly if the
body does not group by an empty name (`created_like_updated_iff`).
-/

import WorkQuery.Proofs.PatchedRows

namespace WorkQuery

open CompactForm Json Number Schema

/-! ### Members -/

namespace Json.Fields

theorem get?_cons_of_ne {name other : String} {value : Value} {fields : Fields}
    (different : other ≠ name) : get? ((other, value) :: fields) name = get? fields name := by
  unfold get?
  rw [List.find?_cons, beq_eq_false_iff_ne.mpr different]

theorem get?_eq_none {name : String} {fields : Fields}
    (absent : ∀ field ∈ fields, field.1 ≠ name) : get? fields name = none := by
  unfold get?
  rw [List.find?_eq_none.mpr fun field member same => absent field member (beq_iff_eq.mp same)]
  rfl

end Json.Fields

/-- The query with no grouping in the place of one by an empty name. -/
def Query.regrouped (query : Query) : Query :=
  { query with grouping := if query.grouping.property = some "" then .none else query.grouping }

namespace Service

variable {state : State}

/-! ### Bodies -/

/-- The names under which drafts and changes have parts in common, the name of the query aside. -/
def sharedNames : List String :=
  ["visibility", "display", "filters", "sortBy", "sort_by", "columns", "groupBy", "group_by",
   "show_sums"]

/-- A body that gives nothing but parts that drafts and changes have in common. -/
def IsShared (fields : Fields) : Prop :=
  ∀ field ∈ fields, field.1 ∈ sharedNames ∧ field.2 ≠ .null

theorem get?_of_isShared {fields : Fields} (shared : IsShared fields) {name : String}
    (foreign : name ∉ sharedNames) : fields.get? name = none :=
  Fields.get?_eq_none fun field member same => foreign (same ▸ (shared field member).1)

/-- A shared body gives nothing under other names. -/
theorem given?_of_isShared {fields : Fields} (shared : IsShared fields) {name : String}
    (foreign : name ∉ sharedNames) (single : secondName? name = none) :
    given? fields name = none := by
  refine given?_of_none ?_
  rw [memberUnder?, single, get?_of_isShared shared foreign]
  rfl

theorem secondName?_ne_name (name : String) : secondName? name ≠ some "name" := by
  unfold secondName?
  split <;> decide

/-- A body that gives a query its name, and else what other fields give. -/
structure IsNamed (name : Value) (fields body : Fields) : Prop where
  name : body.get? "name" = some name
  others : ∀ other ≠ "name", body.get? other = fields.get? other

theorem isNamed_cons (name : Value) (fields : Fields) :
    IsNamed name fields (("name", name) :: fields) where
  name := rfl
  others _ other := Fields.get?_cons_of_ne other.symm

/-- The name of a query makes no difference to what a body gives under other names. -/
theorem given?_of_isNamed {name : Value} {fields body : Fields} (named : IsNamed name fields body)
    {part : String} (other : part ≠ "name") : given? body part = given? fields part := by
  unfold given? memberUnder?
  rw [named.others part other]
  cases found : secondName? part with
  | none => rfl
  | some second =>
    have different : second ≠ "name" := by
      rintro rfl
      exact secondName?_ne_name part found
    rw [Option.bind_some, Option.bind_some, named.others second different]

/-- A draft that has the parts of a change and else falls back, where the change brings no name. -/
structure Draft.Completes (draft : Draft) (change : Change) : Prop where
  name : change.name = none
  projectId : draft.projectId = none
  visibility : draft.visibility = change.visibility.getD .own
  display : draft.display = change.display.getD .list
  filters : draft.filters = change.filters.getD []
  sortBy : draft.sortBy = change.sortBy.getD []
  columns : draft.columns = change.columns
  groupBy : draft.groupBy = change.groupBy
  highlightingMode : draft.highlightingMode = .none
  zoom : draft.zoom = .weeks
  includeSubprojects : draft.includeSubprojects = true
  showHierarchies : draft.showHierarchies = true
  showSums : draft.showSums = change.showSums.getD false

theorem completes_of_reads {fields body : Fields} {name : Value} {draft : Draft} {change : Change}
    (shared : IsShared fields) (named : IsNamed name fields body) (drafts : draft.Reads body)
    (reads : change.Reads fields) : draft.Completes change := by
  have alike {part : String} (other : part ≠ "name") : given? body part = given? fields part :=
    given?_of_isNamed named other
  have nothing {part : String} (other : part ≠ "name") (single : secondName? part = none)
      (foreign : part ∉ sharedNames) : given? body part = none :=
    (alike other).trans (given?_of_isShared shared foreign single)
  exact {
    name := reads.name.eq_none (given?_of_isShared shared (by decide) rfl)
    projectId := drafts.projectId.eq_none (nothing (by decide) rfl (by decide))
    visibility := drafts.visibility.eq_getD (alike (by decide)) reads.visibility
    display := drafts.display.eq_getD (alike (by decide)) reads.display
    filters := drafts.filters.eq_getD (alike (by decide)) reads.filters
    sortBy := drafts.sortBy.eq_getD (alike (by decide)) reads.sortBy
    columns := drafts.columns.eq_of_eq (alike (by decide)) reads.columns
    groupBy := drafts.groupBy.eq_of_eq (alike (by decide)) reads.groupBy
    highlightingMode := drafts.highlightingMode.eq_fallback (nothing (by decide) rfl (by decide))
    zoom := drafts.zoom.eq_fallback (nothing (by decide) rfl (by decide))
    includeSubprojects :=
      drafts.includeSubprojects.eq_fallback (nothing (by decide) rfl (by decide))
    showHierarchies := drafts.showHierarchies.eq_fallback (nothing (by decide) rfl (by decide))
    showSums := drafts.showSums.eq_getD (alike (by decide)) reads.showSums }

/-! ### Queries -/

/-- The query of a draft that gives a name only is the plain one. -/
theorem toQuery_of_named {name : Value} {draft : Draft} {query : Query}
    (reads : draft.Reads [("name", name)]) (read : draft.toQuery = .ok query) :
    query = .plain draft.name := by
  obtain ⟨filters, sorts, columns, readFilters, readSorts, isColumns, rfl⟩ :=
    Draft.exists_parts_of_toQuery read
  rw [reads.filters.eq_fallback rfl] at readFilters
  rw [reads.sortBy.eq_fallback rfl] at readSorts
  obtain rfl : .empty = filters := Except.ok.inj readFilters
  obtain rfl : .standard = sorts := Except.ok.inj readSorts
  obtain rfl := isColumns.eq_of_none (reads.columns.eq_none rfl)
  rw [reads.display.eq_fallback rfl, reads.projectId.eq_none rfl,
    reads.visibility.eq_fallback rfl, reads.groupBy.eq_none rfl,
    reads.highlightingMode.eq_fallback rfl, reads.zoom.eq_fallback rfl,
    reads.includeSubprojects.eq_fallback rfl, reads.showHierarchies.eq_fallback rfl,
    reads.showSums.eq_fallback rfl]
  rfl

/-- A grouping that is replaced is the one that is drafted, unless that is by an empty name. -/
theorem grouping_of_replaced {property : Option String} {grouping : Grouping}
    (replaced : Replaced Change.groupingOf .none property grouping) :
    grouping = if property = some "" then .none else ⟨property, false⟩ := by
  cases replaced with
  | kept => rfl
  | @replaced name _ sound =>
    rw [← Except.ok.inj sound, Grouping.single]
    exact if_congr (Option.some_inj (b := "")).symm rfl rfl

/-- A plain query becomes with a change what a draft with the same parts describes, but for a
grouping by an empty name. -/
theorem changed_eq_regrouped {draft : Draft} {change : Change} {drafted query changed : Query}
    {id user : Int} (completes : draft.Completes change) (read : draft.toQuery = .ok drafted)
    (applied : change.Applied query changed)
    (isPlain : query = ((Query.plain draft.name).withUser user).withId id) :
    changed = (drafted.regrouped.withUser user).withId id := by
  obtain ⟨filters, sorts, columns, readFilters, readSorts, isColumns, rfl⟩ :=
    Draft.exists_parts_of_toQuery read
  obtain rfl := isPlain
  have name : changed.name = draft.name := applied.name.eq_of_none completes.name
  have visibility : changed.visibility = draft.visibility :=
    applied.visibility.eq_getD.trans completes.visibility.symm
  have display : changed.display = draft.display :=
    applied.display.eq_getD.trans completes.display.symm
  have sameFilters : changed.filters = filters := by
    have initial : parseFilters (.list []) = .ok .empty := rfl
    have replaced := applied.filters.sound_getD initial
    rw [← completes.filters, readFilters] at replaced
    exact (Except.ok.inj replaced).symm
  have sameSorts : changed.sorts = sorts := by
    have initial : sortsOf [] = .ok .standard := rfl
    have replaced := applied.sorts.sound_getD initial
    rw [← completes.sortBy, readSorts] at replaced
    exact (Except.ok.inj replaced).symm
  have sameColumns : changed.columns = columns := by
    rw [completes.columns] at isColumns
    exact applied.columns.unique isColumns
  have grouping : changed.grouping =
      if draft.groupBy = some "" then .none else ⟨draft.groupBy, false⟩ := by
    rw [completes.groupBy]
    exact grouping_of_replaced applied.grouping
  have showSums : changed.showSums = draft.showSums :=
    applied.showSums.eq_getD.trans completes.showSums.symm
  have showTimeline : changed.showTimeline = (draft.display == .gantt) := by
    rw [applied.showTimeline, completes.display]
    cases change.display with
    | none => rfl
    | some display => rfl
  rw [applied.rest, name, visibility, display, sameFilters, sameSorts, sameColumns, grouping,
    showSums, showTimeline, completes.projectId, completes.highlightingMode, completes.zoom,
    completes.includeSubprojects, completes.showHierarchies]
  rfl

/-! ### Answers -/

/-- The answers with two rows of a user, one of which keeps a query and one the same query but for a
grouping by an empty name, are the same up to the numbers of the rows exactly if the query is not
grouped by an empty name. -/
theorem alike_of_regrouped_iff {left right : SavedRow} {query : Query} {created updated : Value}
    (owner : left.userId = right.userId) (keepsLeft : left.content = .ofQuery query)
    (keepsRight : right.content = .ofQuery query.regrouped) (parsed : query.IsParsed)
    (shownLeft : rowAnswer left = .ok created) (shownRight : rowAnswer right = .ok updated) :
    (∀ name ≠ "id", created.member? name = updated.member? name) ↔
      query.grouping.property ≠ some "" := by
  have parsedRight : query.regrouped.IsParsed :=
    ⟨parsed.name, parsed.filters, parsed.sorts, parsed.columns⟩
  obtain ⟨filters, readFilters, readLeft⟩ := exists_read_of_rowAnswer keepsLeft parsed shownLeft
  obtain ⟨_, readAgain, readRight⟩ := exists_read_of_rowAnswer keepsRight parsedRight shownRight
  obtain rfl := Except.ok.inj (readFilters.symm.trans readAgain)
  unfold rowAnswer at shownLeft shownRight
  rw [readLeft] at shownLeft
  rw [readRight] at shownRight
  obtain rfl := Except.ok.inj shownLeft
  obtain rfl := Except.ok.inj shownRight
  constructor
  · intro alike empty
    have grouped : some (Value.ofOption Value.text query.grouping.property) =
        some (Value.ofOption Value.text query.regrouped.grouping.property) :=
      alike "groupBy" (by decide)
    rw [Query.regrouped, if_pos empty, empty] at grouped
    cases grouped
  · intro nonempty name different
    have same : query.regrouped = query := by
      rw [Query.regrouped, if_neg nonempty]
    rw [same, owner]
    exact (Fields.get?_cons_of_ne different.symm).trans
      (Fields.get?_cons_of_ne different.symm).symm

/-! ### Requests -/

/-- A request by which a user saves a query with a body, and the answer to it. -/
structure Creates (state : State) (request : Request) (user : Int) (fields : Fields)
    (answer : Value) : Prop where
  opens : opened request = .ok (.createQuery, some (.object fields))
  told : requester state request .createQuery = .ok (some user)
  status : (step state request).1.status = 201
  content : (step state request).1.content = .json answer

/-- A request by which the saved query of a number is changed with a body, and the answer to it. -/
structure Updates (state : State) (request : Request) (id : Int) (fields : Fields)
    (answer : Value) : Prop where
  opens : ∃ written, opened request = .ok (.updateQuery written, some (.object fields)) ∧
    queryIdArgument written = .ok id
  status : (step state request).1.status = 200
  content : (step state request).1.content = .json answer

/-- What is added when a query is saved: a row with the query of the draft. -/
theorem exists_row_of_creates {request : Request} {user : Int} {fields : Fields} {answer : Value}
    (creates : Creates state request user fields answer) :
    ∃ draft query, draft.Reads fields ∧ Draft.toQuery draft = .ok query ∧ query.IsParsed ∧
      rowAnswer (state.saved.newRow user (query.withUser user)) = .ok answer ∧
      (step state request).2.saved =
        state.saved ++ [state.saved.newRow user (query.withUser user)] := by
  obtain ⟨poster, value, told, replied, content, saved⟩ :=
    exists_answer_of_success creates.opens (creates.status.trans_lt (by decide))
  obtain rfl := Content.json.inj (creates.content.symm.trans content)
  obtain rfl := Except.ok.inj (creates.told.symm.trans told)
  obtain ⟨_, row, same, drafted, shown, added⟩ := exists_drafted_of_reply replied
  obtain rfl := Option.some.inj same
  obtain ⟨_, draft, query, given, readDraft, readQuery, rfl, -⟩ :=
    exists_query_of_draftedRow drafted
  obtain rfl := Option.some.inj given
  exact ⟨draft, query, Draft.reads_of_ofValue readDraft, readQuery,
    Draft.isParsed (Draft.holdsHalf_name readDraft) readQuery, shown, saved.trans added⟩

/-- A text is given exactly if it is read. -/
theorem given_text_iff {given : Option Value} {part : Option String} {written : String}
    (reads : Given text given part) : part = some written ↔ given = some (.text written) := by
  cases reads with
  | nothing => exact iff_of_false nofun nofun
  | part sound =>
    rw [eq_text_of_text sound, Option.some_inj, Option.some_inj, Value.text.injEq]

/-- A row that is added with a name alone and then changed with shared fields keeps what a draft
with the name and the fields describes, but for a grouping by an empty name. -/
theorem exists_row_of_updates {bareState changedState : State} {bare patch : Request}
    {user id : Int} {name bareAnswer updated : Value} {fields body : Fields} {draft : Draft}
    {drafted : Query} (shared : IsShared fields) (named : IsNamed name fields body)
    (drafts : draft.Reads body) (readDraft : draft.toQuery = .ok drafted)
    (names : Creates bareState bare user [("name", name)] bareAnswer)
    (numbered : bareAnswer.member? "id" = some (.int id))
    (follows : changedState.saved = (step bareState bare).2.saved)
    (updates : Updates changedState patch id fields updated) :
    ∃ row, row.userId = user ∧ row.content = .ofQuery drafted.regrouped ∧
      rowAnswer row = .ok updated := by
  obtain ⟨bareDraft, plain, bareDrafts, readBare, parsed, shown, added⟩ :=
    exists_row_of_creates names
  obtain rfl := toQuery_of_named bareDrafts readBare
  have sameName : bareDraft.name = draft.name := by
    obtain ⟨value, found, readName⟩ := drafts.name
    obtain ⟨bareValue, foundBare, readBareName⟩ := bareDrafts.name
    rw [named.name] at found
    obtain rfl := Option.some.inj (found.symm.trans foundBare)
    exact Except.ok.inj (readBareName.symm.trans readName)
  rw [sameName] at shown added parsed
  obtain rfl := Value.int.inj (Option.some.inj (numbered.symm.trans (id_of_rowAnswer shown)))
  obtain ⟨written, opens, readNumber⟩ := updates.opens
  obtain ⟨_, change, old, query, changed, after, same, readFields, readOld, -, made⟩ :=
    exists_carriesOut_of_updated opens updates.status
  obtain rfl := Value.object.inj (Option.some.inj same)
  obtain rfl := Content.json.inj (updates.content.symm.trans made.content)
  -- The row that is changed is the one that was added, since its number was in use nowhere.
  have isAdded : old = bareState.saved.newRow user ((Query.plain draft.name).withUser user) := by
    have number := Except.ok.inj (readNumber.symm.trans readOld)
    have member := made.member
    rw [follows, added] at member
    rcases List.mem_append.mp member with before | new
    · have used : old.id ∈ bareState.saved.map SavedRow.id := List.mem_map_of_mem before
      rw [← number] at used
      exact absurd used (nextId_notMem bareState.saved)
    · exact List.mem_singleton.mp new
  obtain rfl := isAdded
  obtain ⟨filters, readFilters, readRow⟩ :=
    exists_read_of_rowAnswer rfl (Query.isParsed_withUser parsed user) shown
  obtain rfl : .empty = filters := Except.ok.inj readFilters
  have isPlain := Except.ok.inj (made.readOld.symm.trans readRow)
  have reads := Change.reads_of_ofValue readFields
  obtain rfl := changed_eq_regrouped (completes_of_reads shared named drafts reads) readDraft
    (Change.applied_of_apply made.apply) isPlain
  exact ⟨_, rfl, rfl, made.shown⟩

/-- Where a query is saved with its name and shared fields, and another one with the name alone and
then changed with the fields, the two answers are the same up to the numbers of the rows exactly if
the fields do not group by an empty name. Between the requests time may pass, and the two ways need
not start from the same table. -/
theorem created_like_updated_iff {bareState changedState : State} {post bare patch : Request}
    {user id : Int} {name created bareAnswer updated : Value} {fields body : Fields}
    (shared : IsShared fields) (named : IsNamed name fields body)
    (creates : Creates state post user body created)
    (names : Creates bareState bare user [("name", name)] bareAnswer)
    (numbered : bareAnswer.member? "id" = some (.int id))
    (follows : changedState.saved = (step bareState bare).2.saved)
    (updates : Updates changedState patch id fields updated) :
    (∀ member ≠ "id", created.member? member = updated.member? member) ↔
      given? fields "groupBy" ≠ some (.text "") := by
  obtain ⟨draft, drafted, drafts, readDraft, parsed, shown, -⟩ := exists_row_of_creates creates
  obtain ⟨row, owner, keeps, shownRow⟩ :=
    exists_row_of_updates shared named drafts readDraft names numbered follows updates
  have keepsCreated : (state.saved.newRow user (drafted.withUser user)).content =
      .ofQuery drafted := rfl
  have grouping : drafted.grouping.property = draft.groupBy := by
    obtain ⟨filters, sorts, columns, -, -, -, rfl⟩ := Draft.exists_parts_of_toQuery readDraft
    rfl
  rw [alike_of_regrouped_iff owner.symm keepsCreated keeps parsed shown shownRow, grouping]
  have reads := drafts.groupBy
  rw [given?_of_isNamed named (by decide)] at reads
  exact not_congr (given_text_iff reads)

/-! ### Runs -/

/-- The request by which the user 1 saves a query with fields. -/
def postRequest (fields : Fields) : Request :=
  chartRequest "POST" "/queries" (("name", .text "Q") :: fields)

/-- The service after the user 1 has saved a query with fields. -/
def postedService (fields : Fields) : State :=
  (step freshService (postRequest fields)).2

/-- The service after the user 1 has saved another query with the name alone. -/
def bareService (fields : Fields) : State :=
  (step (postedService fields) (postRequest [])).2

/-- The request by which the user 1 changes that other query. -/
def patchRequest (fields : Fields) : Request :=
  chartRequest "PATCH" "/queries/2" fields

theorem opened_postRequest (fields : Fields) : opened (postRequest fields) =
    .ok (.createQuery, some (.object (("name", .text "Q") :: fields))) := by
  have resolves : Endpoint.resolve "POST" "/queries" = .ok .createQuery :=
    eq_ok_of_toOption (by decide +kernel)
  unfold opened postRequest chartRequest
  rw [resolves]
  rfl

theorem opened_patchRequest (fields : Fields) :
    opened (patchRequest fields) = .ok (.updateQuery "2", some (.object fields)) := by
  have resolves : Endpoint.resolve "PATCH" "/queries/2" = .ok (.updateQuery "2") :=
    eq_ok_of_toOption (by decide +kernel)
  unfold opened patchRequest chartRequest
  rw [resolves]
  rfl

/-- Where the user 1 goes both ways and every request succeeds, the answers can be compared. -/
theorem exists_answers {fields : Fields}
    (posted : (step freshService (postRequest fields)).1.status = 201)
    (bare : (step (postedService fields) (postRequest [])).1.status = 201)
    (next : (postedService fields).saved.nextId = 2)
    (patched : (step (bareService fields) (patchRequest fields)).1.status = 200) :
    ∃ created bareAnswer updated,
      Creates freshService (postRequest fields) 1 (("name", .text "Q") :: fields) created ∧
      Creates (postedService fields) (postRequest []) 1 [("name", .text "Q")] bareAnswer ∧
      bareAnswer.member? "id" = some (.int 2) ∧
      Updates (bareService fields) (patchRequest fields) 2 fields updated := by
  obtain ⟨_, created, -, -, shown, -⟩ :=
    exists_answer_of_success (opened_postRequest fields) (posted.trans_lt (by decide))
  obtain ⟨_, bareAnswer, -, -, shownBare, -⟩ :=
    exists_answer_of_success (opened_postRequest []) (bare.trans_lt (by decide))
  obtain ⟨_, updated, -, -, shownPatched, -⟩ :=
    exists_answer_of_success (opened_patchRequest fields) (patched.trans_lt (by decide))
  have names : Creates (postedService fields) (postRequest []) 1 [("name", .text "Q")] bareAnswer :=
    ⟨opened_postRequest [], rfl, bare, shownBare⟩
  obtain ⟨draft, query, -, -, -, shownRow, -⟩ := exists_row_of_creates names
  refine ⟨created, bareAnswer, updated, ⟨opened_postRequest fields, rfl, posted, shown⟩, names, ?_,
    ⟨"2", opened_patchRequest fields, rfl⟩, patched, shownPatched⟩
  rw [id_of_rowAnswer shownRow]
  exact congrArg (fun id => some (Value.int id)) next

/-- Fields for a board that is grouped by the status, in the standard order. -/
def boardFields : Fields :=
  [("display", .text "board"), ("groupBy", .text "status"), ("sortBy", .list [])]

/-- A board comes out the same both ways. -/
theorem created_like_updated_board :
    ∃ created updated, (step freshService (postRequest boardFields)).1.content = .json created ∧
      (step (bareService boardFields) (patchRequest boardFields)).1.content = .json updated ∧
      ∀ member ≠ "id", created.member? member = updated.member? member := by
  have shared : IsShared boardFields := by
    unfold IsShared
    decide
  obtain ⟨created, bareAnswer, updated, creates, names, numbered, updates⟩ :=
    @exists_answers boardFields (by decide +kernel) (by decide +kernel) (by decide +kernel)
      (by decide +kernel)
  refine ⟨created, updated, creates.content, updates.content, ?_⟩
  rw [created_like_updated_iff shared (isNamed_cons _ _) creates names numbered rfl updates]
  decide

/-- The member of an answer under a name. -/
def Response.member? (response : Response) (name : String) : Option Value :=
  match response.content with
  | .json answer => answer.member? name
  | _ => none

theorem member?_of_content {response : Response} {answer : Value} {name : String}
    (content : response.content = .json answer) : response.member? name = answer.member? name := by
  unfold Response.member?
  rw [content]

/-- Fields that group by an empty name. -/
def emptyGrouping : Fields :=
  [("groupBy", .text "")]

/-- It is not the case that the two ways always come to the same: a grouping by an empty name is
kept if a query is saved with it, and left out if it is changed. -/
theorem created_unlike_updated :
    ¬∀ (state bareState changedState : State) (post bare patch : Request) (user id : Int)
      (name created bareAnswer updated : Value) (fields body : Fields), IsShared fields →
      IsNamed name fields body → Creates state post user body created →
      Creates bareState bare user [("name", name)] bareAnswer →
      bareAnswer.member? "id" = some (.int id) →
      changedState.saved = (step bareState bare).2.saved →
      Updates changedState patch id fields updated →
      ∀ member ≠ "id", created.member? member = updated.member? member := by
  intro all
  have shared : IsShared emptyGrouping := by
    unfold IsShared
    decide
  obtain ⟨created, bareAnswer, updated, creates, names, numbered, updates⟩ :=
    @exists_answers emptyGrouping (by decide +kernel) (by decide +kernel) (by decide +kernel)
      (by decide +kernel)
  have same := all _ _ _ _ _ _ _ _ _ _ _ _ _ _ shared (isNamed_cons _ _) creates names numbered rfl
    updates "groupBy" (by decide)
  rw [← member?_of_content creates.content, ← member?_of_content updates.content] at same
  revert same
  decide +kernel

end Service

end WorkQuery
