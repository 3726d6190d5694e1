/-
This file compares the two ways in which saved queries are shown: one at a time, and in lists. The
store lists the rows that a requester may see one by one and that belong to the project, each once,
the starred ones first and then by their names and numbers (`isListOf_visible`). But a list is asked
for with the numbers of the requester and of the project, and a single row with its own number. The
store can only be asked with numbers of sixty-four bits. So a requester with another number is shown
rows one by one and gets no list, and that is the only difference (`listed_like_shown_iff`).
-/

import WorkQuery.Proofs.PrivateRows
import WorkQuery.Proofs.SavedRun

namespace WorkQuery

/-! ### The rows of lists -/

namespace SavedRow

/-- A row stands before another in lists: it has a star and the other has none, or neither or both
have one and its name is smaller, or the names are the same as well and its number is smaller. -/
def Precedes (left right : SavedRow) : Prop :=
  (left.content.starred = true ∧ right.content.starred = false) ∨
    left.content.starred = right.content.starred ∧
      (left.content.name < right.content.name ∨
        left.content.name = right.content.name ∧ left.id < right.id)

theorem listOrder_eq_lt_iff {left right : SavedRow} :
    left.listOrder right = .lt ↔ left.Precedes right := by
  have starLess : compare right.content.starred.toNat left.content.starred.toNat = .lt ↔
      left.content.starred = true ∧ right.content.starred = false := by
    cases left.content.starred <;> cases right.content.starred <;> decide
  have starSame : compare right.content.starred.toNat left.content.starred.toNat = .eq ↔
      left.content.starred = right.content.starred := by
    cases left.content.starred <;> cases right.content.starred <;> decide
  have nameLess : compare left.content.name right.content.name = .lt ↔
      left.content.name < right.content.name := compareOfLessAndEq_eq_lt
  unfold listOrder compareLex compareOn Precedes
  rw [Ordering.then_eq_lt, Ordering.then_eq_lt, starLess, starSame, nameLess,
    Std.compare_eq_iff_eq, Std.compare_eq_lt]

/-- Rows with different numbers that are in the order of lists stand one before the other. -/
theorem precedes_of_comesBefore {left right : SavedRow} (before : left.comesBefore right = true)
    (different : left.id ≠ right.id) : left.Precedes right := by
  rw [comesBefore_eq, Ordering.isLE_iff_eq_lt_or_eq_eq] at before
  exact listOrder_eq_lt_iff.mp
    (before.resolve_right fun equal => different (id_eq_of_listOrder_eq equal))

end SavedRow

namespace SavedRows

/-- A list of saved queries for a requester and perhaps a project: no number is twice in it, it has
exactly the rows that the requester may see and that are the project's own or no project's, and each
row stands before those after it. -/
structure IsListOf (rows : SavedRows) (user project : Option Int) (listed : List SavedRow) :
    Prop where
  distinct : (listed.map SavedRow.id).Nodup
  holds : ∀ row, row ∈ listed ↔ row ∈ rows ∧ row.isVisible user = true ∧
    ∀ id, project = some id → row.content.projectId = some id ∨ row.content.projectId = none
  ordered : listed.Pairwise SavedRow.Precedes

variable {rows : SavedRows}

theorem inScope_iff {project : Option Int} {row : SavedRow} :
    row.inScope project = true ↔
      ∀ id, project = some id → row.content.projectId = some id ∨ row.content.projectId = none := by
  unfold SavedRow.inScope
  cases project with
  | none => simp
  | some id => simp

theorem mem_visible_iff {user project : Option Int} {row : SavedRow} :
    row ∈ rows.visible user project ↔
      row ∈ rows ∧ row.isVisible user = true ∧ row.inScope project = true := by
  unfold visible
  rw [List.mem_mergeSort, List.mem_filter, SavedRow.isListed_eq, Bool.and_eq_true]

theorem isListOf_visible (distinct : (rows.map SavedRow.id).Nodup) (user project : Option Int) :
    rows.IsListOf user project (rows.visible user project) := by
  have permuted : (rows.visible user project).Perm
      (rows.filter (SavedRow.isListed user project)) := List.mergeSort_perm _ _
  have distinctListed : ((rows.visible user project).map SavedRow.id).Nodup :=
    (permuted.map SavedRow.id).nodup_iff.mpr (distinct.sublist (List.filter_sublist.map _))
  refine ⟨distinctListed, fun row => ?_, ?_⟩
  · rw [mem_visible_iff, inScope_iff]
  · have sorted : (rows.visible user project).Pairwise fun left right =>
        left.comesBefore right = true :=
      List.pairwise_mergeSort SavedRow.comesBefore_trans SavedRow.comesBefore_total _
    refine (sorted.and (List.pairwise_map.mp distinctListed)).imp ?_
    exact fun both => SavedRow.precedes_of_comesBefore both.1 both.2

end SavedRows

namespace Service

open Json Schema

variable {state : State}

/-! ### Asking the store -/

/-- A store of saved queries as it can be: it has its tables, and the numbers of its rows are
different and have sixty-four bits. -/
structure State.IsStore (state : State) : Prop where
  tables : state.database.tables.isSome = true
  distinct : (state.saved.map SavedRow.id).Nodup
  numbers : ∀ row ∈ state.saved, fitsWord row.id = true

/-- The rows that the store gives for the list of a requester, and perhaps of a project. -/
def listedRows (state : State) (user project : Option Int) : Except Refusal SavedRows :=
  (readable state (user.toList ++ project.toList)).map fun rows => rows.visible user project

theorem listQueries_eq_listedRows (user : Option Int) (request : Request) :
    listQueries state user request =
      (integerParameter request "project_id").mapError Refusal.ofArgumentFailure >>= fun project =>
        listedRows state user project >>= fun rows => (rows.mapM rowAnswer).map Value.list := by
  unfold listQueries
  congr 1
  funext project
  unfold listedRows
  cases readable state (user.toList ++ project.toList) with
  | error refusal => rfl
  | ok rows =>
    change (rows.visible user project).mapM rowAnswer >>= _ =
      ((rows.visible user project).mapM rowAnswer).map Value.list
    cases (rows.visible user project).mapM rowAnswer <;> rfl

theorem readable_eq_ok_iff (store : state.IsStore) {numbers : List Int} {rows : SavedRows} :
    readable state numbers = .ok rows ↔ numbers.all fitsWord = true ∧ rows = state.saved := by
  unfold readable
  rw [store.tables, Bool.true_and]
  split
  · rename_i fit
    exact ⟨fun read => ⟨fit, (Except.ok.inj read).symm⟩, fun both => both.2 ▸ rfl⟩
  · rename_i large
    exact iff_of_false nofun fun both => large both.1

theorem listedRows_eq_ok_iff (store : state.IsStore) {user project : Option Int}
    {listed : SavedRows} :
    listedRows state user project = .ok listed ↔
      (user.toList ++ project.toList).all fitsWord = true ∧
        listed = state.saved.visible user project := by
  unfold listedRows
  rw [map_eq_ok]
  constructor
  · rintro ⟨rows, read, rfl⟩
    obtain ⟨fit, rfl⟩ := (readable_eq_ok_iff store).mp read
    exact ⟨fit, rfl⟩
  · rintro ⟨fit, rfl⟩
    exact ⟨state.saved, (readable_eq_ok_iff store).mpr ⟨fit, rfl⟩, rfl⟩

/-! ### Lists and single rows -/

/-- A row can be read and shown. -/
def IsReadable (row : SavedRow) : Prop :=
  ∃ answer, rowAnswer row = .ok answer ∧ answer.holdsHalf = false

/-- A request asks an endpoint, and the endpoint is told of a requester or of nobody. -/
structure Request.Asks (state : State) (request : Request) (endpoint : Endpoint)
    (user : Option Int) : Prop where
  resolves : Endpoint.resolve request.method request.path = .ok endpoint
  told : requester state request endpoint = .ok user

/-- A response shows a list of saved queries with a number among theirs. -/
def Lists (response : Response) (id : Int) : Prop :=
  response.status = 200 ∧ ∃ answers, response.content = .json (.list answers) ∧
    ∃ answer ∈ answers, answer.member? "id" = some (.int id)

/-- The answers of a list tell the numbers of its rows. -/
theorem map_id_of_mapM {rows : List SavedRow} {answers : List Value}
    (read : rows.mapM rowAnswer = .ok answers) :
    answers.map (Value.member? "id") = rows.map fun row => some (.int row.id) := by
  have related := forall₂_mapM read
  clear read
  induction related with
  | nil => rfl
  | cons first _ inductionHypothesis =>
    rw [List.map_cons, List.map_cons, id_of_rowAnswer first, inductionHypothesis]

theorem exists_id_iff {rows : List SavedRow} {answers : List Value}
    (read : rows.mapM rowAnswer = .ok answers) {id : Int} :
    (∃ answer ∈ answers, answer.member? "id" = some (.int id)) ↔ ∃ row ∈ rows, row.id = id := by
  have same := map_id_of_mapM read
  rw [← List.mem_map, same, List.mem_map]
  simp

section Requests

variable {request : Request} {user : Option Int} {id : Int}

/-- An endpoint that looks only shows what it replies, unless that cannot be written. -/
theorem shows_iff {endpoint : Endpoint} {reply : Except Refusal Value}
    (asks : request.Asks state endpoint user) (bodiless : endpoint.readsBody = false)
    (replies : answer state user request none endpoint = .unchanged state.saved reply)
    (value : Value) :
    ((step state request).1.status = 200 ∧ (step state request).1.content = .json value) ↔
      reply = .ok value ∧ value.holdsHalf = false := by
  have replied (other : Value) : (outcome state request).reply = .ok (200, other) ↔
      reply = .ok other ∧ other.holdsHalf = false := by
    rw [outcome_of_bodiless asks.resolves bodiless asks.told, replies, reply_written,
      reply_unchanged, and_iff_left rfl]
  rw [← replied, status_eq_success_iff]
  constructor
  · rintro ⟨⟨other, given⟩, shown⟩
    rw [content_of_reply asks.resolves given, Content.json.injEq] at shown
    exact shown ▸ given
  · intro given
    exact ⟨⟨value, given⟩, content_of_reply asks.resolves given⟩

theorem listQueries_eq_ok_iff (store : state.IsStore)
    (unscoped : integerParameter request "project_id" = .ok none) {value : Value} :
    listQueries state user request = .ok value ↔
      user.all fitsWord = true ∧
        ∃ answers, (state.saved.visible user none).mapM rowAnswer = .ok answers ∧
          .list answers = value := by
  rw [listQueries_eq_listedRows, unscoped]
  change listedRows state user none >>= _ = .ok value ↔ _
  rw [bind_eq_ok]
  have numbers : (user.toList ++ (none : Option Int).toList).all fitsWord = user.all fitsWord := by
    cases user <;> simp
  simp only [listedRows_eq_ok_iff store, numbers, map_eq_ok, and_assoc]
  simp

/-- A list is shown to a requester whose number the store can be asked with, and has the numbers of
the rows that the requester may see. -/
theorem lists_iff (store : state.IsStore)
    (readable : ∀ row ∈ state.saved, row.isVisible user = true → IsReadable row)
    (asks : request.Asks state .listQueries user)
    (unscoped : integerParameter request "project_id" = .ok none) :
    Lists (step state request).1 id ↔
      user.all fitsWord = true ∧ ∃ row ∈ state.saved, row.id = id ∧ row.isVisible user = true := by
  have member {row : SavedRow} : row ∈ state.saved.visible user none ↔
      row ∈ state.saved ∧ row.isVisible user = true := by
    rw [SavedRows.mem_visible_iff]
    exact and_congr_right fun _ => and_iff_left rfl
  have shown (answers : List Value) := shows_iff asks rfl rfl (.list answers)
  constructor
  · rintro ⟨status, answers, content, named⟩
    obtain ⟨given, -⟩ := (shown answers).mp ⟨status, content⟩
    obtain ⟨fit, others, read, same⟩ := (listQueries_eq_ok_iff store unscoped).mp given
    obtain rfl := Value.list.inj same
    obtain ⟨row, listed, same⟩ := (exists_id_iff read).mp named
    obtain ⟨inside, seen⟩ := member.mp listed
    exact ⟨fit, row, inside, same, seen⟩
  · rintro ⟨fit, row, inside, same, seen⟩
    obtain ⟨answers, read, whole⟩ := exists_mapM_iff.mpr fun other listed =>
      readable other (member.mp listed).1 (member.mp listed).2
    have given := (listQueries_eq_ok_iff store unscoped).mpr ⟨fit, answers, read, rfl⟩
    obtain ⟨status, content⟩ :=
      (shown answers).mpr ⟨given, Value.holdsHalf_list_eq_false.mpr whole⟩
    exact ⟨status, answers, content,
      (exists_id_iff read).mpr ⟨row, member.mpr ⟨inside, seen⟩, same⟩⟩

theorem visibleRow_eq_ok_iff (store : state.IsStore) {row : SavedRow} :
    visibleRow state user id = .ok row ↔
      row ∈ state.saved ∧ row.id = id ∧ row.isVisible user = true := by
  have found : state.saved.getVisible? id user = some row ↔
      row ∈ state.saved ∧ row.id = id ∧ row.isVisible user = true := by
    unfold SavedRows.getVisible?
    rw [Option.filter_eq_some_iff, SavedRows.get?_eq_some_iff store.distinct, and_assoc]
  rw [← found]
  unfold visibleRow
  rw [bind_eq_ok]
  constructor
  · rintro ⟨rows, read, shown⟩
    obtain ⟨-, rfl⟩ := (readable_eq_ok_iff store).mp read
    split at shown
    · rename_i other seen
      rw [seen, Except.ok.inj shown]
    · cases shown
  · intro seen
    obtain ⟨inside, same, -⟩ := found.mp seen
    have fits : [id].all fitsWord = true := by
      rw [List.all_cons, List.all_nil, Bool.and_true, ← same]
      exact store.numbers row inside
    refine ⟨state.saved, (readable_eq_ok_iff store).mpr ⟨fits, rfl⟩, ?_⟩
    rw [seen]
    rfl

/-- A row is shown to a requester who may see it, whatever the number of the requester. -/
theorem status_showing_iff (store : state.IsStore)
    (readable : ∀ row ∈ state.saved, row.isVisible user = true → IsReadable row) {written : String}
    (asks : request.Asks state (.showQuery written) user)
    (named : queryIdArgument written = .ok id) :
    (step state request).1.status = 200 ↔
      ∃ row ∈ state.saved, row.id = id ∧ row.isVisible user = true := by
  have replies (answer : Value) : showQuery state user written = .ok answer ↔
      ∃ row, (row ∈ state.saved ∧ row.id = id ∧ row.isVisible user = true) ∧
        rowAnswer row = .ok answer := by
    unfold showQuery
    rw [named]
    change visibleRow state user id >>= rowAnswer = .ok answer ↔ _
    simp only [bind_eq_ok, visibleRow_eq_ok_iff store]
  have shown (answer : Value) := shows_iff asks rfl rfl answer
  constructor
  · intro status
    obtain ⟨answer, given⟩ := status_eq_success_iff.mp status
    have content := content_of_reply asks.resolves given
    obtain ⟨row, seen, -⟩ := (replies answer).mp ((shown answer).mp ⟨status, content⟩).1
    exact ⟨row, seen⟩
  · rintro ⟨row, inside, same, seen⟩
    obtain ⟨answer, read, whole⟩ := readable row inside seen
    exact ((shown answer).mpr ⟨(replies answer).mpr ⟨row, ⟨inside, same, seen⟩, read⟩, whole⟩).1

end Requests

/-- The store gives the list of a requester and perhaps a project exactly if the numbers of both
have sixty-four bits, and then it is the right list. Hence, where the rows that the requester may
see can be read, the list without a project has the numbers of the rows that the requester is shown
one by one, unless the number of the requester is of another size and there are such rows. -/
theorem listed_like_shown_iff (store : state.IsStore) :
    (∀ user project, (∃ listed, listedRows state user project = .ok listed ∧
        state.saved.IsListOf user project listed) ↔
      ∀ number ∈ user.toList ++ project.toList, fitsWord number = true) ∧
    ∀ user, (∀ row ∈ state.saved, row.isVisible user = true → IsReadable row) →
      ∀ listing showing written id,
        Request.Asks state listing .listQueries user →
        integerParameter listing "project_id" = .ok none →
        Request.Asks state showing (.showQuery written) user →
        queryIdArgument written = .ok id →
        ((Lists (step state listing).1 id ↔ (step state showing).1.status = 200) ↔
          user.all fitsWord = true ∨
            ∀ row ∈ state.saved, row.id = id → row.isVisible user = false) := by
  constructor
  · intro user project
    rw [← List.all_eq_true]
    constructor
    · rintro ⟨listed, given, -⟩
      exact ((listedRows_eq_ok_iff store).mp given).1
    · intro fit
      exact ⟨_, (listedRows_eq_ok_iff store).mpr ⟨fit, rfl⟩,
        SavedRows.isListOf_visible store.distinct user project⟩
  · intro user readable listing showing written id asksList unscoped asksRow named
    have hidden : (∀ row ∈ state.saved, row.id = id → row.isVisible user = false) ↔
        ¬∃ row ∈ state.saved, row.id = id ∧ row.isVisible user = true := by
      simp
    rw [lists_iff store readable asksList unscoped, status_showing_iff store readable asksRow named,
      hidden, and_iff_right_iff_imp, imp_iff_or_not]

/-- A service with saved queries of the users 1 and 2: two of the user 2 that everybody may see and
that have the same name, a private one, and two private ones of the user 1 in different projects, of
which one is starred. -/
def openService : State :=
  { guardedService with
    saved :=
      [⟨5, 2, .ofQuery { Query.plain "Shown" with visibility := .global }⟩,
       ⟨1, 2, .ofQuery { Query.plain "Shown" with visibility := .everyone }⟩,
       ⟨2, 2, .ofQuery (Query.plain "Hidden")⟩,
       ⟨3, 1, .ofQuery { Query.plain "Mine" with projectId := some 1 }⟩,
       ⟨4, 1, .ofQuery { Query.plain "Starred" with projectId := some 3, starred := true }⟩] }

/-- Requesters, the projects that they ask about, and the numbers of the rows that they are
given. -/
def openLists : List (Option Int × Option Int × List Int) :=
  [(some 1, none, [4, 3, 1, 5]), (some 1, some 3, [4, 1, 5]), (none, some 1, [1, 5])]

/-- A request by a user whose token writes the user's number in this way. -/
def lookingRequest (subject path : String) : Request :=
  ⟨"GET", path, [], .absent, some (issue [("sub", .text subject)] 1)⟩

theorem isStore_openService : openService.IsStore where
  tables := rfl
  distinct := by decide
  numbers := by decide

theorem isReadable_openService : ∀ row ∈ openService.saved, IsReadable row := by
  have whole : openService.saved.all (fun row =>
      (rowAnswer row).toOption.any fun answer => !answer.holdsHalf) = true := by decide +kernel
  intro row inside
  have whole := List.all_eq_true.mp whole row inside
  cases read : rowAnswer row with
  | error refusal =>
    rw [read] at whole
    cases whole
  | ok answer =>
    rw [read] at whole
    exact ⟨answer, read, by simpa [Except.toOption] using whole⟩

theorem resolve_list : Endpoint.resolve "GET" "/queries" = .ok .listQueries :=
  eq_ok_of_toOption (by decide +kernel)

theorem resolve_row : Endpoint.resolve "GET" "/queries/1" = .ok (.showQuery "1") :=
  eq_ok_of_toOption (by decide +kernel)

theorem resolve_hidden : Endpoint.resolve "GET" "/queries/2" = .ok (.showQuery "2") :=
  eq_ok_of_toOption (by decide +kernel)

theorem queryIdArgument_one : queryIdArgument "1" = .ok 1 :=
  eq_ok_of_toOption (by decide +kernel)

theorem queryIdArgument_two : queryIdArgument "2" = .ok 2 :=
  eq_ok_of_toOption (by decide +kernel)

theorem asks_looking {subject path : String} {user : Int} {endpoint : Endpoint}
    (resolves : Endpoint.resolve "GET" path = .ok endpoint)
    (asks : endpoint.asksRequester = true)
    (told : userOfToken 0 (issue [("sub", .text subject)] 1) = .ok (some user)) :
    (lookingRequest subject path).Asks openService endpoint (some user) where
  resolves := resolves
  told := by
    unfold requester
    rw [asks]
    exact mapError_eq_ok.mpr told

/-- The user 1 finds the starred query first, then the others by name and, of one name, by number;
not those of other projects if a project is asked for, and never the private one of the user 2.
What is found in the list is shown, and what is not found is not. -/
theorem listed_like_shown_open :
    (∀ asked ∈ openLists, ∃ listed, listedRows openService asked.1 asked.2.1 = .ok listed ∧
      openService.saved.IsListOf asked.1 asked.2.1 listed ∧
      listed.map SavedRow.id = asked.2.2) ∧
    Lists (step openService (lookingRequest "1" "/queries")).1 1 ∧
    (step openService (lookingRequest "1" "/queries/1")).1.status = 200 ∧
    ¬Lists (step openService (lookingRequest "1" "/queries")).1 2 ∧
    (step openService (lookingRequest "1" "/queries/2")).1.status = 404 := by
  obtain ⟨lists, alike⟩ := listed_like_shown_iff isStore_openService
  have alike := alike (some 1) (fun row inside _ => isReadable_openService row inside)
    (lookingRequest "1" "/queries")
  have shown := alike (lookingRequest "1" "/queries/1") "1" 1
    (asks_looking resolve_list rfl rfl) rfl (asks_looking resolve_row rfl rfl) queryIdArgument_one
  have hidden := alike (lookingRequest "1" "/queries/2") "2" 2
    (asks_looking resolve_list rfl rfl) rfl (asks_looking resolve_hidden rfl rfl)
    queryIdArgument_two
  have isShown : (step openService (lookingRequest "1" "/queries/1")).1.status = 200 := by
    decide +kernel
  have isHidden : (step openService (lookingRequest "1" "/queries/2")).1.status = 404 := by
    decide +kernel
  -- The rows are kept in the opposite order of every list.
  have arranged : ∀ asked ∈ openLists,
      let kept := (openService.saved.filter (SavedRow.isListed asked.1 asked.2.1)).reverse
      (∀ number ∈ asked.1.toList ++ asked.2.1.toList, fitsWord number = true) ∧
        kept.Pairwise (fun row other => row.comesBefore other = true) ∧
          kept.map SavedRow.id = asked.2.2 := by decide +kernel
  refine ⟨fun asked member => ?_, (shown.mpr (.inl (by decide))).mpr isShown, isShown, ?_, isHidden⟩
  · obtain ⟨fit, ordered, numbers⟩ := arranged asked member
    obtain ⟨listed, given, isList⟩ := (lists asked.1 asked.2.1).mpr fit
    have isArranged := SavedRows.visible_eq_of_perm isStore_openService.distinct
      (List.reverse_perm _) ordered
    rw [← isArranged, ← ((listedRows_eq_ok_iff isStore_openService).mp given).2] at numbers
    exact ⟨listed, given, isList, numbers⟩
  · intro listed
    have found := (hidden.mpr (.inl (by decide))).mp listed
    rw [isHidden] at found
    cases found

/-- It is not the case that every requester finds in the list what can be looked at row by row: the
number of the requester may be too large for the store. -/
theorem listed_unlike_shown :
    ¬∀ (state : State) (user : Option Int) (listing showing : Request) (written : String)
      (id : Int), state.IsStore →
        (∀ row ∈ state.saved, row.isVisible user = true → IsReadable row) →
        listing.Asks state .listQueries user →
        integerParameter listing "project_id" = .ok none →
        showing.Asks state (.showQuery written) user → queryIdArgument written = .ok id →
        (Lists (step state listing).1 id ↔ (step state showing).1.status = 200) := by
  intro all
  have told : userOfToken 0 (issue [("sub", .text "9223372036854775808")] 1) =
      .ok (some 9223372036854775808) := eq_ok_of_toOption (by decide +kernel)
  have alike := all openService (some 9223372036854775808)
    (lookingRequest "9223372036854775808" "/queries")
    (lookingRequest "9223372036854775808" "/queries/1") "1" 1 isStore_openService
    (fun row inside _ => isReadable_openService row inside) (asks_looking resolve_list rfl told)
    rfl (asks_looking resolve_row rfl told) queryIdArgument_one
  have shown : (step openService
      (lookingRequest "9223372036854775808" "/queries/1")).1.status = 200 := by decide +kernel
  have failed : (step openService
      (lookingRequest "9223372036854775808" "/queries")).1.status = 500 := by decide +kernel
  have listed := (alike.mpr shown).1
  rw [failed] at listed
  cases listed

end Service

end WorkQuery
