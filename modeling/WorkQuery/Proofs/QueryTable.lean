/-
This file says what a request does to the table of saved queries. It adds a row at the end, puts a
row in the place of the one with its number, takes a row out, or leaves the table as it is, and the
status of the response goes with the reply to that (`exists_effect`). Hence no two rows of a table
that can be reached share a number, and all of them keep parsed queries
(`isSoundTable_of_reachable`).
-/

import WorkQuery.Proofs.QueryBody
import WorkQuery.Proofs.ShownText

namespace WorkQuery.Service

open CompactForm Json Number Schema

/-! ### Effects -/

/-- The rows that are put in the place of others: changed ones, and ones with their star set or
not. -/
inductive Revised (state : State) : SavedRow → Prop
  | changed {user : Int} {id : String} {body : Option Value} {row : SavedRow}
    (made : changedRow state user id body = .ok row) : Revised state row
  | starred {user : Int} {id : String} {row : SavedRow} (named : namedRow state user id = .ok row)
    (starred : Bool) : Revised state (row.withStar starred)

/-- What the owner of a deleted query is told. -/
def deletionNotice : Value :=
  .object [("detail", .text "Query deleted")]

/-- What can become of a request: a reply that leaves the table as it is, or one of three changes
with the reply to it. -/
inductive Effect (state : State) : Outcome → Prop
  | unchanged (reply : Except Refusal Value) : Effect state (.unchanged state.saved reply)
  | added {user : Int} {body : Option Value} {row : SavedRow}
    (drafted : draftedRow state user body = .ok row) :
    Effect state ⟨(rowAnswer row).map fun answer => (201, answer), state.saved ++ [row]⟩
  | replaced {row : SavedRow} (revised : Revised state row) :
    Effect state (.unchanged (state.saved.put row) (rowAnswer row))
  | removed {user : Int} {id : String} {row : SavedRow} (named : namedRow state user id = .ok row) :
    Effect state (.unchanged (state.saved.erase row.id) (.ok deletionNotice))

variable {state : State}

theorem effect_refused (refusal : Refusal) : Effect state (.refused state.saved refusal) :=
  .unchanged (.error refusal)

theorem effect_authenticated {answer : Int → Outcome} (user : Option Int)
    (each : ∀ user, Effect state (answer user)) :
    Effect state (authenticated state.saved user answer) := by
  cases user with
  | none => exact effect_refused _
  | some id => exact each id

theorem effect_createQuery (user : Int) (body : Option Value) :
    Effect state (createQuery state user body) := by
  unfold createQuery
  split
  · exact effect_refused _
  · rename_i drafted
    exact .added drafted

theorem effect_deleteQuery (user : Int) (id : String) :
    Effect state (deleteQuery state user id) := by
  unfold deleteQuery
  split
  · exact effect_refused _
  · rename_i named
    exact .removed named

theorem effect_store {made : Except Refusal SavedRow}
    (each : ∀ row, made = .ok row → Revised state row) : Effect state (store state made) := by
  unfold store
  split
  · exact effect_refused _
  · exact .replaced (each _ rfl)

theorem effect_star (user : Int) (id : String) (starred : Bool) :
    Effect state
      (store state ((namedRow state user id).map fun row => row.withStar starred)) := by
  refine effect_store fun row made => ?_
  obtain ⟨named, found, rfl⟩ := map_eq_ok.mp made
  exact .starred found starred

/-- Every endpoint has one of the effects. -/
theorem effect_answer (user : Option Int) (request : Request) (body : Option Value)
    (endpoint : Endpoint) : Effect state (answer state user request body endpoint) := by
  cases endpoint with
  | createQuery => exact effect_authenticated user fun user => effect_createQuery user body
  | updateQuery id =>
    exact effect_authenticated user fun user => effect_store fun row made => .changed made
  | deleteQuery id => exact effect_authenticated user fun user => effect_deleteQuery user id
  | starQuery id => exact effect_authenticated user fun user => effect_star user id true
  | unstarQuery id => exact effect_authenticated user fun user => effect_star user id false
  | _ => exact .unchanged _

/-! ### Responses -/

/-- Whether an outcome has a reply, and one that can be written. -/
def Succeeds (outcome : Outcome) : Prop :=
  ∃ status value, outcome.reply = .ok (status, value) ∧ value.holdsHalf = false

theorem map_status_eq_ok {code status : Nat} {reply : Except Refusal Value} {value : Value} :
    reply.map (fun body => (code, body)) = .ok (status, value) ↔
      reply = .ok value ∧ status = code := by
  rw [map_eq_ok]
  constructor
  · rintro ⟨body, given, same⟩
    obtain ⟨rfl, rfl⟩ := Prod.mk.inj same
    exact ⟨given, rfl⟩
  · rintro ⟨given, rfl⟩
    exact ⟨value, given, rfl⟩

theorem reply_unchanged {saved : SavedRows} {reply : Except Refusal Value} {status : Nat}
    {value : Value} :
    (Outcome.unchanged saved reply).reply = .ok (status, value) ↔
      reply = .ok value ∧ status = 200 :=
  map_status_eq_ok

/-- The status of a reply that is given is one of success. -/
theorem status_of_effect {effect : Outcome} {status : Nat} {value : Value}
    (effects : Effect state effect) (given : effect.reply = .ok (status, value)) :
    status < 400 := by
  cases effects with
  | unchanged | replaced | removed =>
    rw [(reply_unchanged.mp given).2]
    decide
  | added =>
    rw [(map_status_eq_ok.mp given).2]
    decide

theorem status_refusal (refusal : Refusal) : 400 ≤ refusal.status := by
  cases refusal <;> simp [Refusal.status]

/-- A reply is given as it is unless it holds half of a surrogate pair. -/
theorem reply_written {outcome : Outcome} {uniform : Bool} {body : Option Value} {status : Nat}
    {value : Value} :
    (outcome.written uniform body).reply = .ok (status, value) ↔
      outcome.reply = .ok (status, value) ∧ value.holdsHalf = false := by
  obtain ⟨reply, saved⟩ := outcome
  unfold Outcome.written
  constructor
  · intro given
    split at given
    · rename_i writable
      obtain rfl : reply = .ok (status, value) := given
      exact ⟨rfl, by simpa [Outcome.isWritable] using writable⟩
    · cases given
  · rintro ⟨given, whole⟩
    obtain rfl : reply = .ok (status, value) := given
    rw [if_pos (by simpa [Outcome.isWritable] using whole)]

theorem saved_written (outcome : Outcome) (uniform : Bool) (body : Option Value) :
    (outcome.written uniform body).saved = outcome.saved := by
  unfold Outcome.written
  split <;> rfl

/-- The outcome of a request is an effect, but for a reply that cannot be written. -/
theorem exists_effect_outcome (state : State) (request : Request) :
    ∃ effect, Effect state effect ∧ (outcome state request).saved = effect.saved ∧
      ∀ status value, (outcome state request).reply = .ok (status, value) ↔
        effect.reply = .ok (status, value) ∧ value.holdsHalf = false := by
  unfold outcome
  split
  · exact ⟨_, effect_refused _, rfl, fun _ _ => ⟨nofun, nofun⟩⟩
  · split
    · exact ⟨_, effect_refused _, rfl, fun _ _ => ⟨nofun, nofun⟩⟩
    · rename_i endpoint body _ _ user _
      exact ⟨_, effect_answer user request body endpoint, saved_written _ _ _,
        fun _ _ => reply_written⟩

/-- The outcome of a request that is opened and whose requester is told. -/
theorem outcome_of_opened {request : Request} {endpoint : Endpoint} {body : Option Value}
    {user : Option Int} (opens : opened request = .ok (endpoint, body))
    (told : requester state request endpoint = .ok user) :
    outcome state request =
      (answer state user request body endpoint).written state.uniform body := by
  unfold outcome
  rw [opens]
  dsimp only
  rw [told]

/-- The outcome of a request at an endpoint that reads no body. -/
theorem outcome_of_bodiless {request : Request} {endpoint : Endpoint} {user : Option Int}
    (resolves : Endpoint.resolve request.method request.path = .ok endpoint)
    (bodiless : endpoint.readsBody = false)
    (told : requester state request endpoint = .ok user) :
    outcome state request =
      (answer state user request none endpoint).written state.uniform none := by
  refine outcome_of_opened ?_ told
  unfold opened
  rw [resolves, ok_bind, bodiless]
  rfl

theorem status_step (state : State) (request : Request) :
    (step state request).1.status = match (outcome state request).reply with
      | .ok (status, _) => status
      | .error refusal => refusal.status := by
  unfold step Response.shownTo
  dsimp only
  cases (outcome state request).reply with
  | error refusal => split <;> rfl
  | ok reply => split <;> rfl

theorem status_eq_success_iff {request : Request} :
    (step state request).1.status = 200 ↔
      ∃ value, (outcome state request).reply = .ok (200, value) := by
  rw [status_step]
  cases (outcome state request).reply with
  | error refusal =>
    refine iff_of_false (fun same : refusal.status = 200 => ?_) (fun ⟨_, given⟩ => nomatch given)
    have failure := status_refusal refusal
    rw [same] at failure
    contradiction
  | ok reply =>
    obtain ⟨status, value⟩ := reply
    constructor
    · rintro rfl
      exact ⟨value, rfl⟩
    · rintro ⟨_, given⟩
      exact (Prod.mk.inj (Except.ok.inj given)).1

/-- A request has an effect, and the response to it is one of success exactly if the effect
succeeds. -/
theorem exists_effect (state : State) (request : Request) :
    ∃ effect, Effect state effect ∧ (step state request).2.saved = effect.saved ∧
      ((step state request).1.status < 400 ↔ Succeeds effect) := by
  obtain ⟨effect, effects, saved, replies⟩ := exists_effect_outcome state request
  refine ⟨effect, effects, saved, ?_⟩
  rw [status_step]
  cases given : (outcome state request).reply with
  | error refusal =>
    refine iff_of_false (not_lt.mpr (status_refusal refusal)) ?_
    rintro ⟨status, value, replied⟩
    rw [← replies, given] at replied
    cases replied
  | ok reply =>
    obtain ⟨status, value⟩ := reply
    have replied := (replies status value).mp given
    exact iff_of_true (status_of_effect effects replied.1) ⟨status, value, replied⟩

/-! ### Rows of the table -/

theorem le_foldl_max (ids : List Int) (start : Int) :
    start ≤ ids.foldl max start ∧ ∀ id ∈ ids, id ≤ ids.foldl max start := by
  induction ids generalizing start with
  | nil => exact ⟨le_rfl, List.forall_mem_nil _⟩
  | cons first ids inductionHypothesis =>
    obtain ⟨least, others⟩ := inductionHypothesis (max start first)
    rw [List.foldl_cons]
    exact ⟨(le_max_left _ _).trans least,
      List.forall_mem_cons.mpr ⟨(le_max_right _ _).trans least, others⟩⟩

/-- The number of a new row is in use nowhere. -/
theorem nextId_notMem (rows : SavedRows) : rows.nextId ∉ rows.map SavedRow.id := by
  intro member
  have bound := (le_foldl_max (rows.map SavedRow.id) 0).2 _ member
  rw [SavedRows.nextId] at bound
  omega

theorem map_id_put (rows : SavedRows) (row : SavedRow) :
    (rows.put row).map SavedRow.id = rows.map SavedRow.id := by
  rw [SavedRows.put, List.map_map]
  refine List.map_congr_left fun other _ => ?_
  rw [Function.comp_apply]
  split
  · rename_i same
    exact (beq_iff_eq.mp same).symm
  · rfl

theorem mem_put_iff {rows : SavedRows} {row other : SavedRow} :
    other ∈ rows.put row ↔
      (other ∈ rows ∧ other.id ≠ row.id) ∨ (other = row ∧ ∃ old ∈ rows, old.id = row.id) := by
  unfold SavedRows.put
  rw [List.mem_map]
  constructor
  · rintro ⟨old, member, rfl⟩
    split
    · rename_i same
      exact .inr ⟨rfl, old, member, beq_iff_eq.mp same⟩
    · rename_i different
      exact .inl ⟨member, fun same => different (beq_iff_eq.mpr same)⟩
  · rintro (⟨member, different⟩ | ⟨rfl, old, member, same⟩)
    · exact ⟨other, member, if_neg fun same => different (beq_iff_eq.mp same)⟩
    · exact ⟨old, member, if_pos (beq_iff_eq.mpr same)⟩

theorem mem_put {rows : SavedRows} {row other : SavedRow} (member : other ∈ rows.put row) :
    other = row ∨ other ∈ rows := by
  rcases mem_put_iff.mp member with ⟨inside, -⟩ | ⟨same, -⟩
  · exact .inr inside
  · exact .inl same

theorem mem_put_self {rows : SavedRows} {row old : SavedRow} (member : old ∈ rows)
    (same : row.id = old.id) : row ∈ rows.put row :=
  mem_put_iff.mpr (.inr ⟨rfl, old, member, same.symm⟩)

/-- Putting a row into a table that holds it already changes nothing. -/
theorem put_eq_self {rows : SavedRows} (distinct : (rows.map SavedRow.id).Nodup) {row : SavedRow}
    (member : row ∈ rows) : rows.put row = rows := by
  refine (List.map_congr_left fun other inside => ?_).trans (List.map_id rows)
  split
  · rename_i same
    exact (List.inj_on_of_nodup_map distinct inside member (beq_iff_eq.mp same)).symm
  · rfl

theorem mem_of_get? {rows : SavedRows} {id : Int} {row : SavedRow}
    (found : rows.get? id = some row) : row ∈ rows :=
  List.mem_of_find?_eq_some found

theorem eq_of_readable {numbers : List Int} {rows : SavedRows}
    (read : readable state numbers = .ok rows) : rows = state.saved := by
  unfold readable at read
  split at read
  · exact (Except.ok.inj read).symm
  · cases read

theorem mem_of_ownedRow {user id : Int} {row : SavedRow}
    (found : ownedRow state user id = .ok row) : row ∈ state.saved := by
  obtain ⟨rows, read, found⟩ := bind_eq_ok.mp found
  obtain rfl := eq_of_readable read
  split at found
  · rename_i owned
    obtain rfl := Except.ok.inj found
    exact mem_of_get? (Option.eq_some_of_filter_eq_some owned)
  · cases found

theorem id_of_ownedRow {user id : Int} {row : SavedRow}
    (found : ownedRow state user id = .ok row) : row.id = id := by
  obtain ⟨rows, -, found⟩ := bind_eq_ok.mp found
  split at found
  · rename_i other owned
    rw [← Except.ok.inj found]
    have named : rows.get? id = some other := Option.eq_some_of_filter_eq_some owned
    have same := List.find?_some named
    exact beq_iff_eq.mp same
  · cases found

theorem mem_of_namedRow {user : Int} {id : String} {row : SavedRow}
    (found : namedRow state user id = .ok row) : row ∈ state.saved := by
  obtain ⟨number, -, found⟩ := bind_eq_ok.mp found
  exact mem_of_ownedRow found

theorem eq_of_storable {row stored : SavedRow} (sent : storable row = .ok stored) :
    stored = row ∧ row.content.groupBy.any Text.holdsHalf = false := by
  unfold storable at sent
  split at sent
  · cases sent
  · rename_i whole
    exact ⟨(Except.ok.inj sent).symm, Bool.eq_false_iff.mpr whole⟩

theorem exists_of_bodyArgument {Argument : Type} {body : Option Value}
    {read : Value → Checked Argument} {argument : Argument}
    (given : bodyArgument body read = .ok argument) :
    ∃ value, body = some value ∧ read value = .ok argument := by
  have given := within_eq_ok.mp given
  split at given
  · exact ⟨_, rfl, given⟩
  · cases given

/-- What a draft comes to: a new row for the user with the query that the draft describes. -/
theorem exists_query_of_draftedRow {user : Int} {body : Option Value} {row : SavedRow}
    (drafted : draftedRow state user body = .ok row) :
    ∃ (value : Value) (draft : Draft) (query : Query), body = some value ∧
      Draft.ofValue value = .ok draft ∧ draft.toQuery = .ok query ∧
      row = state.saved.newRow user (query.withUser user) ∧
      query.grouping.property.any Text.holdsHalf = false := by
  obtain ⟨draft, readDraft, drafted⟩ := bind_eq_ok.mp drafted
  obtain ⟨query, readQuery, drafted⟩ := bind_eq_ok.mp drafted
  obtain ⟨rows, readRows, drafted⟩ := bind_eq_ok.mp drafted
  obtain rfl := eq_of_readable readRows
  obtain ⟨rfl, whole⟩ := eq_of_storable drafted
  obtain ⟨value, given, readBody⟩ := exists_of_bodyArgument (mapError_eq_ok.mp readDraft)
  exact ⟨value, draft, query, given, readBody, mapError_eq_ok.mp readQuery, rfl, whole⟩

/-- What a change comes to: the row that it names, the query read from it, and that query with the
change applied, which the row is then updated to. -/
theorem exists_update_of_changedRow {user : Int} {id : String} {body : Option Value}
    {row : SavedRow} (made : changedRow state user id body = .ok row) :
    ∃ (number : Int) (value : Value) (change : Change) (old : SavedRow) (query changed : Query),
      queryIdArgument id = .ok number ∧ body = some value ∧ Change.ofValue value = .ok change ∧
      ownedRow state user number = .ok old ∧ old.toQuery = .ok query ∧
      change.apply query = .ok changed ∧ row = old.update changed ∧
      changed.grouping.property.any Text.holdsHalf = false := by
  obtain ⟨⟨number, change⟩, readBoth, made⟩ := bind_eq_ok.mp made
  obtain ⟨old, found, made⟩ := bind_eq_ok.mp made
  obtain ⟨query, readQuery, made⟩ := bind_eq_ok.mp made
  obtain ⟨changed, applied, made⟩ := bind_eq_ok.mp made
  obtain ⟨make, argument, readId, readChange, same⟩ := both_eq_ok (mapError_eq_ok.mp readBoth)
  obtain ⟨given, readNumber, rfl⟩ := map_eq_ok.mp readId
  obtain ⟨rfl, rfl⟩ := Prod.mk.inj same
  obtain ⟨value, given, readBody⟩ := exists_of_bodyArgument readChange
  obtain ⟨rfl, whole⟩ := eq_of_storable made
  exact ⟨number, value, change, old, query, changed, readNumber, given, readBody, found,
    mapError_eq_ok.mp readQuery, mapError_eq_ok.mp applied, rfl, whole⟩

/-- A new row is sound and has a number of its own. -/
theorem isSound_of_drafted {user : Int} {body : Option Value} {row : SavedRow}
    (drafted : draftedRow state user body = .ok row) :
    row.IsSound ∧ row.id ∉ state.saved.map SavedRow.id := by
  obtain ⟨value, draft, query, -, readBody, readQuery, rfl, whole⟩ :=
    exists_query_of_draftedRow drafted
  have parsed := Draft.isParsed (Draft.holdsHalf_name readBody) readQuery
  exact ⟨⟨⟨query.withUser user, rfl, Query.isParsed_withUser parsed user⟩, whole⟩, nextId_notMem _⟩

/-- What is known of a table that can be reached. -/
structure IsSoundTable (rows : SavedRows) : Prop where
  sound : ∀ row ∈ rows, row.IsSound
  distinct : (rows.map SavedRow.id).Nodup

/-- A row that is put in the place of another is sound if the table is. -/
theorem isSound_of_revised {row : SavedRow} (sound : ∀ row ∈ state.saved, row.IsSound)
    (revised : Revised state row) : row.IsSound ∧ ∃ old ∈ state.saved, row.id = old.id := by
  cases revised with
  | changed made =>
    obtain ⟨number, value, change, old, query, changed, -, -, readBody, found, readQuery, applied,
      rfl, whole⟩ := exists_update_of_changedRow made
    have member := mem_of_ownedRow found
    have parsed := SavedRow.isParsed_of_toQuery (sound _ member).keeps readQuery
    have kept := (Change.applied_of_apply applied).isParsed (Change.holdsHalf_name readBody) parsed
    exact ⟨⟨⟨changed, rfl, kept⟩, whole⟩, old, member, rfl⟩
  | starred named starred =>
    have member := mem_of_namedRow named
    have old := sound _ member
    exact ⟨⟨SavedRow.keepsParsed_withStar old.keeps starred, old.groupBy⟩, _, member, rfl⟩

/-- Whatever a request does, the table stays sound. -/
theorem isSoundTable_of_effect {effect : Outcome} (table : IsSoundTable state.saved)
    (effects : Effect state effect) : IsSoundTable effect.saved := by
  cases effects with
  | unchanged reply => exact table
  | @added user body row drafted =>
    obtain ⟨sound, fresh⟩ := isSound_of_drafted drafted
    refine ⟨fun other member => ?_, ?_⟩
    · rcases List.mem_append.mp member with old | new
      · exact table.sound other old
      · exact List.mem_singleton.mp new ▸ sound
    · rw [List.map_append, List.map_singleton, ← List.concat_eq_append]
      exact List.Nodup.concat fresh table.distinct
  | @replaced row revised =>
    obtain ⟨sound, -⟩ := isSound_of_revised table.sound revised
    refine ⟨fun other member => ?_, ?_⟩
    · rcases mem_put member with rfl | old
      · exact sound
      · exact table.sound other old
    · change ((state.saved.put row).map SavedRow.id).Nodup
      rw [map_id_put]
      exact table.distinct
  | removed named =>
    refine ⟨fun other member => table.sound other (List.mem_of_mem_filter member), ?_⟩
    exact table.distinct.sublist (List.filter_sublist.map _)

/-! ### Tables that can be reached -/

/-- The tables that requests can bring about, one after the other, from an empty one. Between two
requests time may pass and the work packages may change. -/
inductive Reachable : SavedRows → Prop
  | empty : Reachable []
  | step {state : State} (reached : Reachable state.saved) (request : Request) :
    Reachable (step state request).2.saved

theorem reachable_run (requests : List Request) {state : State} (reached : Reachable state.saved) :
    Reachable (run state requests).2.saved := by
  induction requests generalizing state with
  | nil => exact reached
  | cons request requests inductionHypothesis => exact inductionHypothesis (.step reached request)

theorem isSoundTable_of_reachable {rows : SavedRows} (reached : Reachable rows) :
    IsSoundTable rows := by
  induction reached with
  | empty => exact ⟨List.forall_mem_nil _, List.nodup_nil⟩
  | @step state reached request inductionHypothesis =>
    obtain ⟨effect, effects, saved, -⟩ := exists_effect state request
    rw [saved]
    exact isSoundTable_of_effect inductionHypothesis effects

end WorkQuery.Service
