/-
This file proves that private queries stay private. Two tables agree for a requester if every row
that the requester may see is in both of them or in neither (`AgreeFor`); all other rows may differ
in any way. What the requester is answered, and what the requester can change, depends on visible
rows alone, so that agreeing tables give the same responses and agree again afterwards, request by
request (`responses_eq_of_agree`). The number of a new row does tell of the rows there are, so
requests that save a new query are left out.
-/

import WorkQuery.Proofs.QueryTable

namespace WorkQuery

/-! ### The order of lists -/

namespace SavedRow

/-- How two rows compare in a list: by their stars, their names and their numbers. -/
def listOrder : SavedRow → SavedRow → Ordering :=
  compareLex
    (fun left right => compareOn (fun row : SavedRow => row.content.starred.toNat) right left)
    (compareLex (compareOn fun row => row.content.name) (compareOn SavedRow.id))

instance : Std.TransCmp listOrder :=
  inferInstanceAs (Std.TransCmp (compareLex _ (compareLex _ _)))

theorem comesBefore_eq (left right : SavedRow) :
    left.comesBefore right = (listOrder left right).isLE := by
  unfold comesBefore listOrder compareLex compareOn
  dsimp only
  generalize Ordering.then _ _ = ordering
  cases ordering <;> rfl

theorem comesBefore_trans (first second third : SavedRow)
    (before : first.comesBefore second = true) (beforeToo : second.comesBefore third = true) :
    first.comesBefore third = true := by
  rw [comesBefore_eq] at before beforeToo ⊢
  exact Std.TransCmp.isLE_trans before beforeToo

theorem comesBefore_total (left right : SavedRow) :
    (left.comesBefore right || right.comesBefore left) = true := by
  have swapped : listOrder right left = (listOrder left right).swap := Std.OrientedCmp.eq_swap
  rw [comesBefore_eq, comesBefore_eq, swapped]
  cases listOrder left right <;> rfl

theorem id_eq_of_listOrder_eq {left right : SavedRow} (equal : left.listOrder right = .eq) :
    left.id = right.id := by
  unfold listOrder compareLex at equal
  rw [Ordering.then_eq_eq, Ordering.then_eq_eq] at equal
  exact Std.LawfulEqCmp.eq_of_compare equal.2.2

/-- Rows that come before each other have the same number. -/
theorem id_eq_of_comesBefore {left right : SavedRow} (before : left.comesBefore right = true)
    (after : right.comesBefore left = true) : left.id = right.id := by
  rw [comesBefore_eq] at before after
  exact id_eq_of_listOrder_eq (Std.OrientedCmp.isLE_antisymm before after)

/-- Whoever owns a row may see it. -/
theorem isVisible_of_owned {row : SavedRow} {user : Int} (owned : row.userId = user) :
    row.isVisible (some user) = true := by
  unfold SavedRow.isVisible isVisibleTo
  rw [owned, Bool.or_eq_true]
  right
  rw [Option.isSome_some, Bool.true_and, beq_iff_eq]

end SavedRow

/-! ### Tables that agree -/

namespace SavedRows

/-- Two tables, each without a number that is used twice, in which a requester may see the same
rows. -/
structure AgreeFor (user : Option Int) (left right : SavedRows) : Prop where
  distinctLeft : (left.map SavedRow.id).Nodup
  distinctRight : (right.map SavedRow.id).Nodup
  visible : ∀ row : SavedRow, row.isVisible user = true → (row ∈ left ↔ row ∈ right)

/-- Where no number is used twice, a row is found by its number. -/
theorem get?_eq_some_iff {rows : SavedRows} (distinct : (rows.map SavedRow.id).Nodup) {id : Int}
    {row : SavedRow} : rows.get? id = some row ↔ row ∈ rows ∧ row.id = id := by
  have found_eq {other : SavedRow} (found : rows.get? id = some other) :
      other ∈ rows ∧ other.id = id := by
    have holds := List.find?_some found
    exact ⟨List.mem_of_find?_eq_some found, beq_iff_eq.mp holds⟩
  constructor
  · exact found_eq
  · rintro ⟨member, same⟩
    cases found : rows.get? id with
    | none =>
      have missing := List.find?_eq_none.mp found row member
      exact absurd (beq_iff_eq.mpr same) missing
    | some other =>
      obtain ⟨otherMember, otherSame⟩ := found_eq found
      have equal := List.inj_on_of_nodup_map distinct otherMember member (otherSame.trans same.symm)
      rw [equal]

/-- The list is the only arrangement of its rows that is in order: the numbers settle it in the
end. -/
theorem visible_eq_of_perm {rows : SavedRows} {user project : Option Int}
    {arranged : List SavedRow} (distinct : (rows.map SavedRow.id).Nodup)
    (permuted : arranged.Perm (rows.filter (SavedRow.isListed user project)))
    (ordered : arranged.Pairwise fun row other => row.comesBefore other = true) :
    rows.visible user project = arranged := by
  refine List.Perm.eq_of_pairwise ?_
    (List.pairwise_mergeSort SavedRow.comesBefore_trans SavedRow.comesBefore_total _) ordered
    ((List.mergeSort_perm _ _).trans permuted.symm)
  intro row other member otherMember before after
  have inside : row ∈ rows := List.mem_of_mem_filter (List.mem_mergeSort.mp member)
  have insideToo : other ∈ rows := List.mem_of_mem_filter (permuted.mem_iff.mp otherMember)
  exact List.inj_on_of_nodup_map distinct inside insideToo
    (SavedRow.id_eq_of_comesBefore before after)

namespace AgreeFor

variable {user : Option Int} {left right : SavedRows}

/-- The row of a number is the same if it has to be visible. -/
theorem filter_get?_eq (agree : AgreeFor user left right) (id : Int) {property : SavedRow → Bool}
    (visible : ∀ row, property row = true → row.isVisible user = true) :
    (left.get? id).filter property = (right.get? id).filter property := by
  apply Option.ext
  intro row
  rw [Option.filter_eq_some_iff, Option.filter_eq_some_iff, get?_eq_some_iff agree.distinctLeft,
    get?_eq_some_iff agree.distinctRight]
  refine and_congr_left fun holds => and_congr_left fun _ => ?_
  exact agree.visible row (visible row holds)

theorem getVisible?_eq (agree : AgreeFor user left right) (id : Int) :
    left.getVisible? id user = right.getVisible? id user :=
  agree.filter_get?_eq id fun _ seen => seen

theorem getOwned?_eq {user : Int} (agree : AgreeFor (some user) left right) (id : Int) :
    left.getOwned? id user = right.getOwned? id user :=
  agree.filter_get?_eq id fun _ owned => SavedRow.isVisible_of_owned (beq_iff_eq.mp owned)

/-- The same rows are listed in the same order, which the numbers of the rows settle in the end. -/
theorem visible_eq (agree : AgreeFor user left right) (project : Option Int) :
    left.visible user project = right.visible user project := by
  have permuted : (left.filter (SavedRow.isListed user project)).Perm
      (right.filter (SavedRow.isListed user project)) := by
    refine (List.perm_ext_iff_of_nodup ?_ ?_).mpr ?_
    · exact (List.Nodup.of_map _ agree.distinctLeft).filter _
    · exact (List.Nodup.of_map _ agree.distinctRight).filter _
    · intro row
      rw [List.mem_filter, List.mem_filter, SavedRow.isListed_eq, Bool.and_eq_true]
      exact and_congr_left fun holds => agree.visible row holds.1
  exact visible_eq_of_perm agree.distinctLeft
    ((List.mergeSort_perm _ _).trans permuted.symm)
    (List.pairwise_mergeSort SavedRow.comesBefore_trans SavedRow.comesBefore_total _)

end AgreeFor

/-! ### Changes -/

/-- Putting the same row in the place of one that is visible keeps tables in agreement. -/
theorem AgreeFor.put {user : Option Int} {left right : SavedRows}
    (agree : AgreeFor user left right) {row old : SavedRow} (member : old ∈ left)
    (seen : old.isVisible user = true) (same : old.id = row.id) :
    AgreeFor user (left.put row) (right.put row) where
  distinctLeft := Service.map_id_put left row ▸ agree.distinctLeft
  distinctRight := Service.map_id_put right row ▸ agree.distinctRight
  visible other seenToo := by
    rw [Service.mem_put_iff, Service.mem_put_iff, agree.visible other seenToo]
    refine or_congr_right (and_congr_right fun _ => ?_)
    exact iff_of_true ⟨old, member, same⟩ ⟨old, (agree.visible old seen).mp member, same⟩

theorem AgreeFor.erase {user : Option Int} {left right : SavedRows}
    (agree : AgreeFor user left right) (id : Int) :
    AgreeFor user (left.erase id) (right.erase id) where
  distinctLeft := agree.distinctLeft.sublist (List.filter_sublist.map _)
  distinctRight := agree.distinctRight.sublist (List.filter_sublist.map _)
  visible row seen := by
    unfold SavedRows.erase
    rw [List.mem_filter, List.mem_filter, agree.visible row seen]

/-- A row that may not be seen might as well be missing. -/
theorem agreeFor_erase {rows : SavedRows} (distinct : (rows.map SavedRow.id).Nodup)
    {user : Option Int} {id : Int}
    (hidden : ∀ row ∈ rows, row.id = id → row.isVisible user = false) :
    AgreeFor user rows (rows.erase id) where
  distinctLeft := distinct
  distinctRight := distinct.sublist (List.filter_sublist.map _)
  visible row seen := by
    unfold SavedRows.erase
    rw [List.mem_filter, bne_iff_ne]
    refine ⟨fun member => ⟨member, fun same => ?_⟩, fun both => both.1⟩
    rw [hidden row member same] at seen
    cases seen

end SavedRows

namespace Service

open CompactForm Json Number Schema

/-! ### Services that agree -/

/-- Two services that differ only in their saved queries, which agree for a requester. -/
structure State.AgreeFor (user : Option Int) (left right : State) : Prop where
  database : left.database = right.database
  now : left.now = right.now
  uniform : left.uniform = right.uniform
  saved : SavedRows.AgreeFor user left.saved right.saved

/-- Two outcomes with one reply that leave saved queries which agree for a requester. -/
structure Outcome.AgreeFor (user : Option Int) (left right : Outcome) : Prop where
  reply : left.reply = right.reply
  saved : SavedRows.AgreeFor user left.saved right.saved

/-- A request comes from a requester: if it has a token, the token names nobody else. -/
def Request.IsBy (now : Int) (user : Option Int) (request : Request) : Prop :=
  match request.token with
  | some token => ∀ named, userOfToken now token = .ok named → named = user
  | none => user = none

/-! ### Answers -/

section Answers

variable {user : Option Int} {left right : State}

theorem runAnswer_eq (same : left.database = right.database) :
    runAnswer left = runAnswer right := by
  unfold runAnswer
  rw [same]

theorem readable_bind_eq {Content : Type} (agree : left.AgreeFor user right) (numbers : List Int)
    {continuation continuation' : SavedRows → Except Refusal Content}
    (same : continuation left.saved = continuation' right.saved) :
    (readable left numbers >>= continuation) = (readable right numbers >>= continuation') := by
  unfold readable
  rw [agree.database]
  split
  · exact same
  · rfl

theorem visibleRow_eq (agree : left.AgreeFor user right) :
    visibleRow left user = visibleRow right user := by
  funext id
  refine readable_bind_eq agree [id] ?_
  rw [agree.saved.getVisible?_eq id]

theorem ownedRow_eq {user : Int} (agree : left.AgreeFor (some user) right) :
    ownedRow left user = ownedRow right user := by
  funext id
  refine readable_bind_eq agree [id] ?_
  rw [agree.saved.getOwned?_eq id]

theorem listQueries_eq (agree : left.AgreeFor user right) :
    listQueries left user = listQueries right user := by
  funext request
  unfold listQueries
  congr 1
  funext project
  refine readable_bind_eq agree _ ?_
  rw [agree.saved.visible_eq project]

theorem namedRow_eq {user : Int} (agree : left.AgreeFor (some user) right) :
    namedRow left user = namedRow right user := by
  unfold namedRow
  rw [ownedRow_eq agree]

theorem changedRow_eq {user : Int} (agree : left.AgreeFor (some user) right) :
    changedRow left user = changedRow right user := by
  unfold changedRow
  rw [ownedRow_eq agree]

theorem listWorkPackages_eq (same : left.database = right.database) :
    listWorkPackages left = listWorkPackages right := by
  unfold listWorkPackages
  rw [runAnswer_eq same]

theorem runDocument_eq (same : left.database = right.database) :
    runDocument left = runDocument right := by
  unfold runDocument
  rw [runAnswer_eq same]

theorem showQuery_eq (agree : left.AgreeFor user right) :
    showQuery left user = showQuery right user := by
  unfold showQuery
  rw [visibleRow_eq agree]

theorem runQuery_eq (agree : left.AgreeFor user right) :
    runQuery left user = runQuery right user := by
  unfold runQuery
  rw [visibleRow_eq agree, runAnswer_eq agree.database]

/-! ### Outcomes -/

theorem agree_unchanged (agree : left.AgreeFor user right) {reply reply' : Except Refusal Value}
    (same : reply = reply') :
    Outcome.AgreeFor user (.unchanged left.saved reply) (.unchanged right.saved reply') := by
  subst same
  exact ⟨rfl, agree.saved⟩

theorem agree_refused (agree : left.AgreeFor user right) (refusal : Refusal) :
    Outcome.AgreeFor user (.refused left.saved refusal) (.refused right.saved refusal) :=
  ⟨rfl, agree.saved⟩

theorem agree_authenticated (agree : left.AgreeFor user right) {answer answer' : Int → Outcome}
    (each : ∀ id, user = some id → Outcome.AgreeFor user (answer id) (answer' id)) :
    Outcome.AgreeFor user (authenticated left.saved user answer)
      (authenticated right.saved user answer') := by
  cases user with
  | none => exact agree_refused agree _
  | some id => exact each id rfl

/-- A row that the requester owns is found in the table. -/
theorem owned_of_ownedRow {state : State} {user id : Int} {row : SavedRow}
    (found : ownedRow state user id = .ok row) : row ∈ state.saved ∧ row.userId = user := by
  refine ⟨mem_of_ownedRow found, ?_⟩
  obtain ⟨rows, -, found⟩ := bind_eq_ok.mp found
  split at found
  · rename_i owned
    obtain rfl := Except.ok.inj found
    exact beq_iff_eq.mp (Option.filter_eq_some_iff.mp owned).2
  · cases found

theorem owned_of_namedRow {state : State} {user : Int} {id : String} {row : SavedRow}
    (found : namedRow state user id = .ok row) : row ∈ state.saved ∧ row.userId = user := by
  obtain ⟨number, -, found⟩ := bind_eq_ok.mp found
  exact owned_of_ownedRow found

/-- A changed row stands for one that the requester owns. -/
theorem owned_of_changedRow {state : State} {user : Int} {id : String} {body : Option Value}
    {row : SavedRow} (made : changedRow state user id body = .ok row) :
    ∃ old ∈ state.saved, old.userId = user ∧ old.id = row.id := by
  obtain ⟨number, value, change, old, query, changed, -, -, -, found, -, -, rfl, -⟩ :=
    exists_update_of_changedRow made
  obtain ⟨member, owned⟩ := owned_of_ownedRow found
  exact ⟨old, member, owned, rfl⟩

theorem agree_store {user : Int} (agree : left.AgreeFor (some user) right)
    {made made' : Except Refusal SavedRow} (same : made = made')
    (owned : ∀ row, made = .ok row → ∃ old ∈ left.saved, old.userId = user ∧ old.id = row.id) :
    Outcome.AgreeFor (some user) (store left made) (store right made') := by
  subst same
  cases made with
  | error refusal => exact agree_refused agree refusal
  | ok row =>
    obtain ⟨old, member, owns, sameId⟩ := owned row rfl
    exact ⟨rfl, agree.saved.put member (SavedRow.isVisible_of_owned owns) sameId⟩

theorem agree_star {user : Int} (agree : left.AgreeFor (some user) right) (id : String)
    (starred : Bool) :
    Outcome.AgreeFor (some user)
      (store left ((namedRow left user id).map fun row => row.withStar starred))
      (store right ((namedRow right user id).map fun row => row.withStar starred)) := by
  refine agree_store agree (by rw [namedRow_eq agree]) fun row made => ?_
  obtain ⟨old, found, rfl⟩ := map_eq_ok.mp made
  obtain ⟨member, owned⟩ := owned_of_namedRow found
  exact ⟨old, member, owned, rfl⟩

theorem agree_deleteQuery {user : Int} (agree : left.AgreeFor (some user) right) (id : String) :
    Outcome.AgreeFor (some user) (deleteQuery left user id) (deleteQuery right user id) := by
  unfold deleteQuery
  rw [namedRow_eq agree]
  cases namedRow right user id with
  | error refusal => exact agree_refused agree refusal
  | ok row => exact ⟨rfl, agree.saved.erase row.id⟩

/-- Every endpoint but the one that saves a new query has outcomes that agree. -/
theorem agree_answer (agree : left.AgreeFor user right) (request : Request) (body : Option Value)
    {endpoint : Endpoint} (savesNone : endpoint ≠ .createQuery) :
    Outcome.AgreeFor user (answer left user request body endpoint)
      (answer right user request body endpoint) := by
  cases endpoint with
  | createQuery => contradiction
  | health | readiness | defaultQuery => exact agree_unchanged agree rfl
  | listWorkPackages => exact agree_unchanged agree (by rw [listWorkPackages_eq agree.database])
  | runDocument => exact agree_unchanged agree (by rw [runDocument_eq agree.database])
  | listQueries => exact agree_unchanged agree (by rw [listQueries_eq agree])
  | showQuery id => exact agree_unchanged agree (by rw [showQuery_eq agree])
  | runQuery id => exact agree_unchanged agree (by rw [runQuery_eq agree])
  | updateQuery id =>
    refine agree_authenticated agree ?_
    rintro user rfl
    refine agree_store agree (by rw [changedRow_eq agree]) fun row made => ?_
    exact owned_of_changedRow made
  | deleteQuery id =>
    refine agree_authenticated agree ?_
    rintro user rfl
    exact agree_deleteQuery agree id
  | starQuery id =>
    refine agree_authenticated agree ?_
    rintro user rfl
    exact agree_star agree id true
  | unstarQuery id =>
    refine agree_authenticated agree ?_
    rintro user rfl
    exact agree_star agree id false

/-- Whether a reply can be written does not depend on the table. -/
theorem agree_written {first second : Outcome} (agree : first.AgreeFor user second)
    (uniform : Bool) (body : Option Value) :
    (first.written uniform body).AgreeFor user (second.written uniform body) := by
  have same : first.isWritable uniform body = second.isWritable uniform body := by
    unfold Outcome.isWritable
    rw [agree.reply]
  unfold Outcome.written
  rw [same]
  split
  · exact agree
  · exact ⟨rfl, agree.saved⟩

/-! ### Requests -/

/-- An endpoint that asks for the requester is told of the one that the request is by. -/
theorem eq_of_requester {state : State} {request : Request} {endpoint : Endpoint}
    {named : Option Int} (isBy : request.IsBy state.now user)
    (told : requester state request endpoint = .ok named) (asks : endpoint.asksRequester = true) :
    named = user := by
  unfold requester at told
  unfold Request.IsBy at isBy
  rw [asks] at told
  cases given : request.token with
  | none =>
    rw [given] at told isBy
    rw [isBy, ← Except.ok.inj told]
  | some token =>
    rw [given] at told isBy
    exact isBy named (mapError_eq_ok.mp told)

theorem answer_eq_of_not_asks {endpoint : Endpoint} (asksNot : endpoint.asksRequester = false)
    (state : State) (named user : Option Int) (request : Request) (body : Option Value) :
    answer state named request body endpoint = answer state user request body endpoint := by
  cases endpoint with
  | health | readiness | defaultQuery => rfl
  | _ => cases asksNot

theorem resolves_of_opened {request : Request} {endpoint : Endpoint} {body : Option Value}
    (opens : opened request = .ok (endpoint, body)) :
    Endpoint.resolve request.method request.path = .ok endpoint := by
  obtain ⟨resolved, resolves, rest⟩ := bind_eq_ok.mp opens
  split at rest <;>
  · obtain ⟨read, -, same⟩ := bind_eq_ok.mp rest
    obtain ⟨rfl, -⟩ := Prod.mk.inj (Except.ok.inj same)
    exact resolves

theorem agree_outcome (agree : left.AgreeFor user right) {request : Request}
    (isBy : request.IsBy left.now user)
    (savesNone : Endpoint.resolve request.method request.path ≠ .ok .createQuery) :
    (outcome left request).AgreeFor user (outcome right request) := by
  unfold outcome
  cases opens : opened request with
  | error refusal => exact agree_refused agree refusal
  | ok opening =>
    obtain ⟨endpoint, body⟩ := opening
    have notCreate : endpoint ≠ .createQuery := by
      rintro rfl
      exact savesNone (resolves_of_opened opens)
    have asked : requester left request endpoint = requester right request endpoint := by
      unfold requester
      rw [agree.now]
    dsimp only
    rw [← asked, ← agree.uniform]
    cases told : requester left request endpoint with
    | error refusal => exact agree_refused agree refusal
    | ok named =>
      have answers := agree_answer agree request body notCreate
      cases asks : endpoint.asksRequester with
      | true =>
        rw [eq_of_requester isBy told asks]
        exact agree_written answers _ _
      | false =>
        -- Such an endpoint is told of nobody, and has the same answer for everybody.
        dsimp only
        rw [answer_eq_of_not_asks asks left named user, answer_eq_of_not_asks asks right named user]
        exact agree_written answers _ _

/-- A request by a requester has the same response in both services, which agree again. -/
theorem agree_step (agree : left.AgreeFor user right) {request : Request}
    (isBy : request.IsBy left.now user)
    (savesNone : Endpoint.resolve request.method request.path ≠ .ok .createQuery) :
    (step left request).1 = (step right request).1 ∧
      (step left request).2.AgreeFor user (step right request).2 := by
  have outcomes := agree_outcome agree isBy savesNone
  unfold step
  refine ⟨?_, agree.database, agree.now, agree.uniform, outcomes.saved⟩
  dsimp only
  rw [outcomes.reply, agree.uniform]

/-- The services agree after each request of a list, and have answered all of them alike. -/
theorem agree_run (agree : left.AgreeFor user right) {requests : List Request}
    (areBy : ∀ request ∈ requests, request.IsBy left.now user)
    (saveNone : ∀ request ∈ requests,
      Endpoint.resolve request.method request.path ≠ .ok .createQuery) :
    (run left requests).1 = (run right requests).1 ∧
      (run left requests).2.AgreeFor user (run right requests).2 := by
  induction requests generalizing left right with
  | nil => exact ⟨rfl, agree⟩
  | cons request requests inductionHypothesis =>
    rw [List.forall_mem_cons] at areBy saveNone
    obtain ⟨same, agreeAgain⟩ := agree_step agree areBy.1 saveNone.1
    obtain ⟨sameOthers, agreeFinally⟩ := inductionHypothesis agreeAgain areBy.2 saveNone.2
    unfold run
    dsimp only
    rw [same, sameOthers]
    exact ⟨rfl, agreeFinally⟩

end Answers

/-- Whatever a requester asks for, one request after the other, as long as no new query is saved:
the responses are the same whichever rows there are that the requester may not see, and such a row
might as well be missing. -/
theorem responses_eq_of_agree {user : Option Int} {left right : State}
    (agree : left.AgreeFor user right) {requests : List Request}
    (areBy : ∀ request ∈ requests, request.IsBy left.now user)
    (saveNone : ∀ request ∈ requests,
      Endpoint.resolve request.method request.path ≠ .ok .createQuery) :
    (run left requests).1 = (run right requests).1 ∧
      ∀ id, (∀ row ∈ left.saved, row.id = id → row.isVisible user = false) →
        (run left requests).1 =
          (run { left with saved := left.saved.erase id } requests).1 := by
  refine ⟨(agree_run agree areBy saveNone).1, fun id hidden => ?_⟩
  have erased : left.AgreeFor user { left with saved := left.saved.erase id } :=
    ⟨rfl, rfl, rfl, SavedRows.agreeFor_erase agree.saved.distinctLeft hidden⟩
  exact (agree_run erased areBy saveNone).1

/-- A service with a single saved query, which is private to the user 2. -/
def guardedService : State where
  database := ⟨some .empty, ⟨2026, 1, 1, by decide⟩⟩
  saved := [⟨1, 2, .ofQuery (Query.plain "Hidden")⟩]
  now := 0
  uniform := false

/-- A request by the user 1. -/
def prying (method path : String) (body : Body) : Request :=
  ⟨method, path, [], body, some (issue [("sub", .text "1")] 1)⟩

/-- All that the user 1 can try to find out about the query 1. -/
def pryingRequests : List Request :=
  [prying "GET" "/queries" .absent, prying "GET" "/queries/1" .absent,
    prying "GET" "/queries/1/work_packages" .absent,
    prying "PATCH" "/queries/1" (.value (.object [("name", .text "Mine")])),
    prying "POST" "/queries/1/star" .absent, prying "DELETE" "/queries/1/star" .absent,
    prying "DELETE" "/queries/1" .absent]

theorem isBy_prying : ∀ request ∈ pryingRequests, request.IsBy 0 (some 1) := by
  have told : userOfToken 0 (issue [("sub", .text "1")] 1) = .ok (some 1) := rfl
  have signed : ∀ request ∈ pryingRequests,
      request.token = some (issue [("sub", .text "1")] 1) := by simp [pryingRequests, prying]
  intro request member
  unfold Request.IsBy
  rw [signed request member]
  exact fun named given => Except.ok.inj (given.symm.trans told)

/-- The user 1 is answered as if there were no query. -/
theorem responses_eq_of_agree_guarded :
    (run guardedService pryingRequests).1 =
        (run { guardedService with saved := guardedService.saved.erase 1 } pryingRequests).1 ∧
      (run guardedService pryingRequests).1.map Response.status =
        [200, 404, 404, 404, 404, 404, 404] := by
  have distinct : (guardedService.saved.map SavedRow.id).Nodup := by decide
  have hidden : ∀ row ∈ guardedService.saved, row.id = 1 → row.isVisible (some 1) = false := by
    decide +kernel
  have agree : guardedService.AgreeFor (some 1)
      { guardedService with saved := guardedService.saved.erase 1 } :=
    ⟨rfl, rfl, rfl, SavedRows.agreeFor_erase distinct hidden⟩
  have resolved : ∀ request ∈ pryingRequests,
      (Endpoint.resolve request.method request.path).toOption ≠ some .createQuery := by
    decide +kernel
  refine ⟨(responses_eq_of_agree agree isBy_prying fun request member same => ?_).1,
    by decide +kernel⟩
  exact resolved request member (congrArg Except.toOption same)

end Service

end WorkQuery
