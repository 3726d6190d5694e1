/-
This file ties every change of the table of saved queries to the request that makes it. A table
changes only for a requester who is told, at one of five endpoints, and each of them has its own
change (`changes_step`). So what is true of a table along a run of requests is shown change by
change.
-/

import WorkQuery.Proofs.PrivateRows

namespace WorkQuery.Service

open CompactForm Json Number Schema

/-! ### Changes -/

/-- What a user makes of the table at an endpoint, with the body of the request. -/
inductive Changes (state : State) (user : Int) : Endpoint → Option Value → SavedRows → Prop
  | added {body : Option Value} {row : SavedRow}
    (drafted : draftedRow state user body = .ok row) :
    Changes state user .createQuery body (state.saved ++ [row])
  | changed {id : String} {body : Option Value} {row : SavedRow}
    (made : changedRow state user id body = .ok row) :
    Changes state user (.updateQuery id) body (state.saved.put row)
  | starred {id : String} {body : Option Value} {row : SavedRow}
    (named : namedRow state user id = .ok row) :
    Changes state user (.starQuery id) body (state.saved.put (row.withStar true))
  | unstarred {id : String} {body : Option Value} {row : SavedRow}
    (named : namedRow state user id = .ok row) :
    Changes state user (.unstarQuery id) body (state.saved.put (row.withStar false))
  | removed {id : String} {body : Option Value} {row : SavedRow}
    (named : namedRow state user id = .ok row) :
    Changes state user (.deleteQuery id) body (state.saved.erase row.id)

variable {state : State}

theorem changes_createQuery (user : Int) (body : Option Value) :
    (createQuery state user body).saved = state.saved ∨
      Changes state user .createQuery body (createQuery state user body).saved := by
  unfold createQuery
  split
  · exact .inl rfl
  · rename_i drafted
    exact .inr (.added drafted)

theorem changes_deleteQuery (user : Int) (id : String) (body : Option Value) :
    (deleteQuery state user id).saved = state.saved ∨
      Changes state user (.deleteQuery id) body (deleteQuery state user id).saved := by
  unfold deleteQuery
  split
  · exact .inl rfl
  · rename_i named
    exact .inr (.removed named)

theorem changes_store {user : Int} {endpoint : Endpoint} {body : Option Value}
    {made : Except Refusal SavedRow}
    (each : ∀ row, made = .ok row → Changes state user endpoint body (state.saved.put row)) :
    (store state made).saved = state.saved ∨
      Changes state user endpoint body (store state made).saved := by
  unfold store
  split
  · exact .inl rfl
  · exact .inr (each _ rfl)

theorem changes_authenticated {answer : Int → Outcome} {endpoint : Endpoint} {body : Option Value}
    (user : Option Int)
    (each : ∀ id, (answer id).saved = state.saved ∨
      Changes state id endpoint body (answer id).saved) :
    (authenticated state.saved user answer).saved = state.saved ∨
      ∃ id, user = some id ∧
        Changes state id endpoint body (authenticated state.saved user answer).saved := by
  cases user with
  | none => exact .inl rfl
  | some id => exact (each id).imp_right fun changes => ⟨id, rfl, changes⟩

/-- An endpoint leaves the table as it is, or makes its own change for a user. -/
theorem changes_answer (user : Option Int) (request : Request) (body : Option Value)
    (endpoint : Endpoint) :
    (answer state user request body endpoint).saved = state.saved ∨
      ∃ id, user = some id ∧
        Changes state id endpoint body (answer state user request body endpoint).saved := by
  cases endpoint with
  | createQuery => exact changes_authenticated user fun id => changes_createQuery id body
  | updateQuery id =>
    exact changes_authenticated user fun user => changes_store fun row made => .changed made
  | deleteQuery id => exact changes_authenticated user fun user => changes_deleteQuery user id body
  | starQuery id =>
    refine changes_authenticated user fun user => changes_store fun row made => ?_
    obtain ⟨old, named, rfl⟩ := map_eq_ok.mp made
    exact .starred named
  | unstarQuery id =>
    refine changes_authenticated user fun user => changes_store fun row made => ?_
    obtain ⟨old, named, rfl⟩ := map_eq_ok.mp made
    exact .unstarred named
  | _ => exact .inl rfl

/-- The endpoints that change the table ask for the requester. -/
theorem asksRequester_of_changes {user : Int} {endpoint : Endpoint} {body : Option Value}
    {rows : SavedRows} (changes : Changes state user endpoint body rows) :
    endpoint.asksRequester = true := by
  cases changes <;> rfl

/-- A request leaves the table as it is, or makes the change of its endpoint for the user that it
comes from. -/
theorem changes_step (state : State) (request : Request) :
    (step state request).2.saved = state.saved ∨
      ∃ endpoint body user, opened request = .ok (endpoint, body) ∧
        requester state request endpoint = .ok (some user) ∧
        Changes state user endpoint body (step state request).2.saved := by
  change (outcome state request).saved = state.saved ∨ ∃ endpoint body user, _ ∧ _ ∧
    Changes state user endpoint body (outcome state request).saved
  unfold outcome
  split
  · exact .inl rfl
  · rename_i endpoint body opens
    split
    · exact .inl rfl
    · rename_i user told
      rw [saved_written]
      refine (changes_answer user request body endpoint).imp_right ?_
      rintro ⟨id, rfl, changes⟩
      exact ⟨endpoint, body, id, opens, told, changes⟩

/-- No change gives two rows the same number. -/
theorem nodup_of_changes (distinct : (state.saved.map SavedRow.id).Nodup) {user : Int}
    {endpoint : Endpoint} {body : Option Value} {rows : SavedRows}
    (changes : Changes state user endpoint body rows) : (rows.map SavedRow.id).Nodup := by
  cases changes with
  | added drafted =>
    rw [List.map_append, List.map_singleton, ← List.concat_eq_append]
    exact List.Nodup.concat (isSound_of_drafted drafted).2 distinct
  | changed | starred | unstarred =>
    rw [map_id_put]
    exact distinct
  | removed => exact distinct.sublist (List.filter_sublist.map _)

theorem nodup_step (distinct : (state.saved.map SavedRow.id).Nodup) (request : Request) :
    ((step state request).2.saved.map SavedRow.id).Nodup := by
  rcases changes_step state request with same | ⟨endpoint, body, user, -, -, changes⟩
  · rw [same]
    exact distinct
  · exact nodup_of_changes distinct changes

/-! ### Runs -/

/-- The tables that requests of some kind can bring about from a table, one after the other. Between
two requests time may pass and the work packages may change. -/
inductive Follows (allowed : State → Request → Prop) (rows : SavedRows) : SavedRows → Prop
  | refl : Follows allowed rows rows
  | step {state : State} (before : Follows allowed rows state.saved) {request : Request}
    (allows : allowed state request) : Follows allowed rows (step state request).2.saved

theorem reachable_of_follows {allowed : State → Request → Prop} {rows later : SavedRows}
    (reached : Reachable rows) (follows : Follows allowed rows later) : Reachable later := by
  induction follows with
  | refl => exact reached
  | step before allows inductionHypothesis => exact .step inductionHypothesis _

theorem follows_run {allowed : State → Request → Prop} {rows : SavedRows}
    (requests : List Request) {state : State} (before : Follows allowed rows state.saved)
    (allow : ∀ request ∈ requests, ∀ saved, allowed { state with saved } request) :
    Follows allowed rows (run state requests).2.saved := by
  induction requests generalizing state with
  | nil => exact before
  | cons request requests inductionHypothesis =>
    obtain ⟨allows, allowOthers⟩ := List.forall_mem_cons.mp allow
    exact inductionHypothesis (.step before (allows state.saved)) allowOthers

end WorkQuery.Service
