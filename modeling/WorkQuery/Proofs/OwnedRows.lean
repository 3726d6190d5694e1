/-
This file proves that saved queries are safe from everybody but their owners. The rows that do not
belong to a requester are the same, and in the same order, before and after a request of the
requester (`others_step`), since every change is made to a row of the requester's own. It follows
that a row never passes to another owner, and that it stays as it is along every run of requests
none of which is its owner's (`others_rows_kept`).
-/

import WorkQuery.Proofs.FaultyRows
import WorkQuery.Proofs.TableChange

namespace WorkQuery

/-! ### Rows of others -/

namespace SavedRows

/-- The rows that do not belong to a requester. -/
def others (user : Option Int) (rows : SavedRows) : SavedRows :=
  rows.filter fun row => some row.userId != user

theorem mem_others {user : Option Int} {rows : SavedRows} {row : SavedRow} :
    row ∈ rows.others user ↔ row ∈ rows ∧ some row.userId ≠ user := by
  rw [others, List.mem_filter, bne_iff_ne]

/-- Nothing belongs to nobody. -/
theorem others_none (rows : SavedRows) : rows.others none = rows :=
  List.filter_eq_self.mpr fun _ _ => rfl

variable {rows : SavedRows} {user : Int} {row : SavedRow}

theorem others_append (owned : row.userId = user) :
    others (some user) (rows ++ [row]) = rows.others (some user) := by
  unfold others
  rw [List.filter_append, List.filter_cons_of_neg, List.filter_nil, List.append_nil]
  rw [owned, bne_self_eq_false]
  exact Bool.false_ne_true

/-- A row of the requester's own may be put in the place of another such row. -/
theorem others_put (distinct : (rows.map SavedRow.id).Nodup) {old : SavedRow} (member : old ∈ rows)
    (same : row.id = old.id) (ownedOld : old.userId = user) (owned : row.userId = user) :
    (rows.put row).others (some user) = rows.others (some user) := by
  have eq_old {other : SavedRow} (inside : other ∈ rows) (sameId : (other.id == row.id) = true) :
      other = old :=
    List.inj_on_of_nodup_map distinct inside member ((beq_iff_eq.mp sameId).trans same)
  unfold others put
  rw [List.filter_map]
  have kept : rows.filter ((fun other : SavedRow => some other.userId != some user) ∘
      fun other => if other.id == row.id then row else other) =
      rows.filter fun other => some other.userId != some user := by
    refine List.filter_congr fun other inside => ?_
    rw [Function.comp_apply]
    split
    · rename_i sameId
      rw [eq_old inside sameId, owned, ownedOld]
    · rfl
  rw [kept]
  refine (List.map_congr_left fun other inside => ?_).trans (List.map_id _)
  obtain ⟨inside, foreign⟩ := mem_others.mp inside
  refine if_neg fun sameId => foreign ?_
  rw [eq_old inside sameId, ownedOld]

theorem others_erase (distinct : (rows.map SavedRow.id).Nodup) (member : row ∈ rows)
    (owned : row.userId = user) :
    (rows.erase row.id).others (some user) = rows.others (some user) := by
  unfold others erase
  rw [List.filter_filter]
  refine List.filter_congr fun other inside => ?_
  cases sameId : other.id != row.id with
  | true => rw [Bool.and_true]
  | false =>
    have equal := List.inj_on_of_nodup_map distinct inside member (bne_eq_false_iff_eq.mp sameId)
    rw [equal, owned, bne_self_eq_false, Bool.false_and]

end SavedRows

namespace Service

open CompactForm Json Number Schema

variable {state : State}

/-! ### Steps -/

theorem userId_of_draftedRow {user : Int} {body : Option Value} {row : SavedRow}
    (drafted : draftedRow state user body = .ok row) : row.userId = user := by
  obtain ⟨value, draft, query, -, -, -, rfl, -⟩ := exists_query_of_draftedRow drafted
  rfl

/-- Every change leaves the rows of others alone. -/
theorem others_of_changes (distinct : (state.saved.map SavedRow.id).Nodup) {user : Int}
    {endpoint : Endpoint} {body : Option Value} {rows : SavedRows}
    (changes : Changes state user endpoint body rows) :
    rows.others (some user) = state.saved.others (some user) := by
  cases changes with
  | added drafted => exact SavedRows.others_append (userId_of_draftedRow drafted)
  | changed made =>
    obtain ⟨number, value, change, old, query, changed, -, -, -, found, -, -, rfl, -⟩ :=
      exists_update_of_changedRow made
    obtain ⟨member, owned⟩ := owned_of_ownedRow found
    exact SavedRows.others_put distinct member rfl owned owned
  | starred named | unstarred named =>
    obtain ⟨member, owned⟩ := owned_of_namedRow named
    exact SavedRows.others_put distinct member rfl owned owned
  | removed named =>
    obtain ⟨member, owned⟩ := owned_of_namedRow named
    exact SavedRows.others_erase distinct member owned

/-- A request leaves the rows of everybody but the requester as they are. -/
theorem others_step (distinct : (state.saved.map SavedRow.id).Nodup) {user : Option Int}
    {request : Request} (isBy : request.IsBy state.now user) :
    (step state request).2.saved.others user = state.saved.others user := by
  rcases changes_step state request with same | ⟨endpoint, body, owner, -, told, changes⟩
  · rw [same]
  · have named := eq_of_requester isBy told (asksRequester_of_changes changes)
    rw [← named]
    exact others_of_changes distinct changes

theorem mem_step_of_other (distinct : (state.saved.map SavedRow.id).Nodup) {user : Option Int}
    {request : Request} (isBy : request.IsBy state.now user) {row : SavedRow}
    (foreign : some row.userId ≠ user) :
    row ∈ (step state request).2.saved ↔ row ∈ state.saved := by
  have same : row ∈ (step state request).2.saved.others user ↔ row ∈ state.saved.others user := by
    rw [others_step distinct isBy]
  rw [SavedRows.mem_others, SavedRows.mem_others] at same
  exact (and_iff_left foreign).symm.trans (same.trans (and_iff_left foreign))

/-- Every request comes from somebody or from nobody. -/
theorem exists_isBy (now : Int) (request : Request) : ∃ user, request.IsBy now user := by
  unfold Request.IsBy
  cases request.token with
  | none => exact ⟨none, rfl⟩
  | some token =>
    dsimp only
    cases userOfToken now token with
    | error fault => exact ⟨none, nofun⟩
    | ok user => exact ⟨user, fun named given => (Except.ok.inj given).symm⟩

/-- No row passes to another owner. -/
theorem userId_step (reached : Reachable state.saved) {request : Request} {row later : SavedRow}
    (member : row ∈ state.saved) (memberLater : later ∈ (step state request).2.saved)
    (same : later.id = row.id) : later.userId = row.userId := by
  have distinct := (isSoundTable_of_reachable reached).distinct
  have distinctLater := (isSoundTable_of_reachable (.step reached request)).distinct
  obtain ⟨user, isBy⟩ := exists_isBy state.now request
  by_cases owned : some row.userId = user
  · by_cases ownedLater : some later.userId = user
    · exact Option.some.inj (ownedLater.trans owned.symm)
    · have memberToo := (mem_step_of_other distinct isBy ownedLater).mp memberLater
      rw [List.inj_on_of_nodup_map distinct memberToo member same]
  · have memberToo := (mem_step_of_other distinct isBy owned).mpr member
    rw [List.inj_on_of_nodup_map distinctLater memberLater memberToo same]

/-! ### Runs -/

/-- A request is not one of an owner. -/
def NotOf (owner : Int) (state : State) (request : Request) : Prop :=
  ∃ user, request.IsBy state.now user ∧ some owner ≠ user

theorem mem_of_follows {row : SavedRow} {rows later : SavedRows} (reached : Reachable rows)
    (follows : Follows (NotOf row.userId) rows later) (member : row ∈ rows) : row ∈ later := by
  induction follows with
  | refl => exact member
  | step before allows inductionHypothesis =>
    obtain ⟨user, isBy, foreign⟩ := allows
    have distinct := (isSoundTable_of_reachable (reachable_of_follows reached before)).distinct
    exact (mem_step_of_other distinct isBy foreign).mpr inductionHypothesis

/-- In a table that requests have brought about, a request leaves every row of anybody but the
requester as it is, and all rows if it comes from nobody; no row passes to another owner; and a row
stays as it is for as long as no request is one of its owner. -/
theorem others_rows_kept (reached : Reachable state.saved) :
    (∀ request user, request.IsBy state.now user →
      (∀ row ∈ state.saved, some row.userId ≠ user → row ∈ (step state request).2.saved) ∧
      (user = none → (step state request).2.saved = state.saved)) ∧
    (∀ request, ∀ row ∈ state.saved, ∀ later ∈ (step state request).2.saved,
      later.id = row.id → later.userId = row.userId) ∧
    ∀ row ∈ state.saved, ∀ rows, Follows (NotOf row.userId) state.saved rows → row ∈ rows := by
  have distinct := (isSoundTable_of_reachable reached).distinct
  refine ⟨fun request user isBy => ⟨fun row member foreign => ?_, ?_⟩, ?_, ?_⟩
  · exact (mem_step_of_other distinct isBy foreign).mpr member
  · rintro rfl
    have same := others_step distinct isBy
    rwa [SavedRows.others_none, SavedRows.others_none] at same
  · exact fun request row member later memberLater same =>
      userId_step reached member memberLater same
  · exact fun row member rows follows => mem_of_follows reached follows member

/-- A request by the user 2 that saves a public query. -/
def sharingRequest : Request where
  method := "POST"
  path := "/queries"
  parameters := []
  body := .value (.object [("name", .text "Open"), ("visibility", .text "public")])
  token := some (issue [("sub", .text "2")] 1)

/-- The user 1 is shown the public query of the user 2, but whatever the user 1 tries, the query is
there afterwards. -/
theorem others_rows_kept_shared :
    (run (step freshService sharingRequest).2 pryingRequests).1.map Response.status =
        [200, 200, 200, 404, 404, 404, 404] ∧
      ∃ row ∈ (step freshService sharingRequest).2.saved, row.userId = 2 ∧
        row ∈ (run (step freshService sharingRequest).2 pryingRequests).2.saved := by
  have reached : Reachable (step freshService sharingRequest).2.saved := .step .empty sharingRequest
  have shared : ∃ row ∈ (step freshService sharingRequest).2.saved, row.userId = 2 := by
    decide +kernel
  refine ⟨by decide +kernel, ?_⟩
  obtain ⟨row, member, owned⟩ := shared
  refine ⟨row, member, owned, (others_rows_kept reached).2.2 row member _ ?_⟩
  refine follows_run pryingRequests .refl fun request asked saved => ?_
  exact ⟨some 1, isBy_prying request asked, by rw [owned]; decide⟩

end Service

end WorkQuery
