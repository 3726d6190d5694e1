/-
This file says what goes wrong with saved queries, and that nothing else does. A row is stored
before it is read back for the answer, so a request whose row turns out faulty fails although it has
changed the table (`failed_effect_iff`); every other request that fails leaves the table as it was.
And a faulty row spoils every list that it occurs in, whoever asks for the list (`status_listing`).
A row is faulty if it keeps a stray day count, or half of a surrogate pair where answers show it.
-/

import WorkQuery.Proofs.QueryTable

namespace WorkQuery.Service

open CompactForm Json Number Schema

variable {state : State}

/-! ### Failed requests -/

theorem succeeds_iff {row : SavedRow} (sound : row.IsSound) (code : Nat) (saved : SavedRows) :
    Succeeds ⟨(rowAnswer row).map fun answer => (code, answer), saved⟩ ↔ ¬row.IsFaulty := by
  rw [← SavedRow.isWritable_rowAnswer_iff sound]
  constructor
  · rintro ⟨status, answer, given, whole⟩
    exact ⟨answer, (map_status_eq_ok.mp given).1, whole⟩
  · rintro ⟨answer, given, whole⟩
    exact ⟨code, answer, map_status_eq_ok.mpr ⟨given, rfl⟩, whole⟩

/-- An effect that does not succeed changes a sound table exactly if it writes a faulty row. -/
theorem failed_effect_iff {effect : Outcome} (table : IsSoundTable state.saved)
    (effects : Effect state effect) :
    (¬Succeeds effect ∧ effect.saved ≠ state.saved) ↔
      ∃ row ∈ effect.saved, row ∉ state.saved ∧ row.IsFaulty := by
  cases effects with
  | unchanged reply =>
    refine iff_of_false (fun changes => changes.2 rfl) ?_
    rintro ⟨row, member, new, -⟩
    exact new member
  | @added user body row drafted =>
    obtain ⟨sound, fresh⟩ := isSound_of_drafted drafted
    have new : row ∉ state.saved := fun member => fresh (List.mem_map_of_mem member)
    rw [succeeds_iff sound, not_not]
    constructor
    · rintro ⟨faulty, -⟩
      exact ⟨row, List.mem_append_right _ List.mem_cons_self, new, faulty⟩
    · rintro ⟨other, member, newOther, faulty⟩
      have same := List.mem_singleton.mp ((List.mem_append.mp member).resolve_left newOther)
      refine ⟨same ▸ faulty, fun unchanged => newOther ?_⟩
      exact unchanged ▸ member
  | @replaced row revised =>
    obtain ⟨sound, old, member, same⟩ := isSound_of_revised table.sound revised
    rw [Outcome.unchanged, succeeds_iff sound, not_not]
    constructor
    · rintro ⟨faulty, changed⟩
      refine ⟨row, mem_put_self member same, fun present => ?_, faulty⟩
      exact changed (put_eq_self table.distinct present)
    · rintro ⟨other, inside, newOther, faulty⟩
      have written := (mem_put inside).resolve_right newOther
      refine ⟨written ▸ faulty, fun unchanged => newOther ?_⟩
      exact unchanged ▸ inside
  | removed named =>
    refine iff_of_false (fun changes => changes.1 ?_) ?_
    · exact ⟨200, deletionNotice, rfl, by decide⟩
    · rintro ⟨row, member, new, -⟩
      exact new (List.mem_of_mem_filter member)

/-- A request that is answered with an error changes the table that it finds exactly if it writes a
faulty row. -/
theorem failed_change_iff (reached : Reachable state.saved) (request : Request) :
    (400 ≤ (step state request).1.status ∧ (step state request).2.saved ≠ state.saved) ↔
      ∃ row ∈ (step state request).2.saved, row ∉ state.saved ∧ row.IsFaulty := by
  obtain ⟨effect, effects, saved, success⟩ := exists_effect state request
  rw [← not_lt, success, saved]
  exact failed_effect_iff (isSoundTable_of_reachable reached) effects

/-- A service with empty tables. -/
def freshService : State where
  database := ⟨some .empty, ⟨2024, 1, 1, by decide⟩⟩
  saved := []
  now := 0
  uniform := false

/-- A request that saves a public query, by a user with a token. Its filter compares a property with
a truth value by a day relative to today, and is given no value. -/
def strayRequest : Request where
  method := "POST"
  path := "/queries"
  parameters := []
  body := .value (.object [("name", .text "Q"), ("visibility", .text "public"),
    ("filters", .list [.object [("status_is_closed",
      .object [("operator", .text "t-5"), ("values", .list [])])]])])
  token := some (issue [("sub", .text "1")] 1)

theorem reachable_stray : Reachable (step freshService strayRequest).2.saved :=
  .step .empty strayRequest

theorem length_saved_stray : (step freshService strayRequest).2.saved.length = 1 := by
  decide +kernel

theorem status_stray : (step freshService strayRequest).1.status = 400 := by
  decide +kernel

theorem saved_stray_ne : (step freshService strayRequest).2.saved ≠ freshService.saved := by
  intro same
  have count := length_saved_stray
  rw [same] at count
  cases count

/-- The stray request is refused, and a faulty row is in the table. -/
theorem failed_change_stray : ∃ row ∈ (step freshService strayRequest).2.saved,
    row ∉ freshService.saved ∧ row.IsFaulty :=
  (failed_change_iff .empty strayRequest).mp ⟨status_stray.ge, saved_stray_ne⟩

/-- It is not the case that a refused request leaves the table as it was. -/
theorem refused_though_changed :
    ¬∀ (state : State) (request : Request), Reachable state.saved →
      400 ≤ (step state request).1.status → (step state request).2.saved = state.saved :=
  fun all => saved_stray_ne (all freshService strayRequest .empty status_stray.ge)

/-! ### Lists -/

/-- A request for the list of saved queries that nothing is wrong with: it comes from somebody who
can be told, or from nobody, and what it asks for can be asked of the store. -/
structure IsListing (state : State) (request : Request) (user project : Option Int) : Prop where
  endpoint : Endpoint.resolve request.method request.path = .ok .listQueries
  asked : requester state request .listQueries = .ok user
  scope : integerParameter request "project_id" = .ok project
  tables : state.database.tables.isSome = true
  numbers : (user.toList ++ project.toList).all fitsWord = true

theorem outcome_listing {request : Request} {user project : Option Int}
    (listing : IsListing state request user project) :
    outcome state request =
      (Outcome.unchanged state.saved (listQueries state user request)).written state.uniform
        none :=
  outcome_of_bodiless listing.endpoint rfl listing.asked

theorem listQueries_listing {request : Request} {user project : Option Int}
    (listing : IsListing state request user project) :
    listQueries state user request =
      ((state.saved.visible user project).mapM rowAnswer).map Value.list := by
  have read : readable state (user.toList ++ project.toList) = .ok state.saved := by
    unfold readable
    rw [listing.tables, listing.numbers]
    exact if_pos rfl
  unfold listQueries
  rw [listing.scope]
  change (readable state (user.toList ++ project.toList) >>= fun rows =>
    (rows.visible user project).mapM rowAnswer >>= fun answers => .ok (Value.list answers)) = _
  rw [read, ok_bind]
  cases (state.saved.visible user project).mapM rowAnswer <;> rfl

/-- A list is answered exactly if each of its rows can be. -/
theorem status_listing {request : Request} {user project : Option Int}
    (listing : IsListing state request user project) :
    (step state request).1.status = 200 ↔ ∀ row ∈ state.saved.visible user project,
      ∃ answer, rowAnswer row = .ok answer ∧ answer.holdsHalf = false := by
  have replies (status : Nat) (value : Value) :
      (outcome state request).reply = .ok (status, value) ↔
        (listQueries state user request = .ok value ∧ status = 200) ∧ value.holdsHalf = false := by
    rw [outcome_listing listing, reply_written, reply_unchanged]
  rw [status_eq_success_iff, ← exists_mapM_iff]
  constructor
  · rintro ⟨value, given⟩
    obtain ⟨⟨listed, -⟩, whole⟩ := (replies 200 value).mp given
    rw [listQueries_listing listing] at listed
    obtain ⟨answers, read, rfl⟩ := map_eq_ok.mp listed
    exact ⟨answers, read, Value.holdsHalf_list_eq_false.mp whole⟩
  · rintro ⟨answers, read, whole⟩
    have listed := (listQueries_listing listing).trans (map_eq_ok.mpr ⟨answers, read, rfl⟩)
    refine ⟨.list answers, (replies 200 _).mpr ⟨⟨listed, rfl⟩, ?_⟩⟩
    exact Value.holdsHalf_list_eq_false.mpr whole

theorem mem_of_mem_visible {rows : SavedRows} {user project : Option Int} {row : SavedRow}
    (member : row ∈ rows.visible user project) : row ∈ rows :=
  List.mem_of_mem_filter (List.mem_mergeSort.mp member)

theorem rowAnswer_isOk_iff {row : SavedRow} :
    (∃ answer, rowAnswer row = .ok answer) ↔ ∃ query, row.toQuery = .ok query := by
  constructor
  · rintro ⟨answer, answered⟩
    obtain ⟨query, read, -⟩ := bind_eq_ok.mp answered
    exact ⟨query, mapError_eq_ok.mp read⟩
  · rintro ⟨query, read⟩
    obtain ⟨answer, answered, -⟩ := holdsHalf_rowAnswer read
    exact ⟨answer, answered⟩

/-- Whatever requests have come, a row of the table is read back, and answered with, exactly if it
keeps no stray day count; and a list of saved queries that nothing else is wrong with is answered
exactly if none of the rows in it is faulty. -/
theorem readable_and_listed_iff (reached : Reachable state.saved) :
    (∀ row ∈ state.saved, ((∃ query, row.toQuery = .ok query) ↔ ¬row.KeepsStray) ∧
      ((∃ answer, rowAnswer row = .ok answer) ↔ ¬row.KeepsStray)) ∧
    ∀ request user project, IsListing state request user project →
      ((step state request).1.status = 200 ↔
        ∀ row ∈ state.saved.visible user project, ¬row.IsFaulty) := by
  have sound := (isSoundTable_of_reachable reached).sound
  constructor
  · intro row member
    have readable := SavedRow.toQuery_isOk_iff (sound row member).keeps
    exact ⟨readable, rowAnswer_isOk_iff.trans readable⟩
  · intro request user project listing
    rw [status_listing listing]
    exact forall₂_congr fun row member =>
      SavedRow.isWritable_rowAnswer_iff (sound row (mem_of_mem_visible member))

/-- A request for the list of saved queries, by nobody. -/
def listRequest : Request where
  method := "GET"
  path := "/queries"
  parameters := []
  body := .absent
  token := none

theorem isListing_listRequest :
    IsListing (step freshService strayRequest).2 listRequest none none where
  endpoint := eq_ok_of_toOption (by decide +kernel)
  asked := rfl
  scope := rfl
  tables := by decide +kernel
  numbers := rfl

theorem unreadable_stray : ∃ row ∈ (step freshService strayRequest).2.saved,
    ¬∃ query, row.toQuery = .ok query := by
  have unread : (step freshService strayRequest).2.saved.any
      (fun row => row.toQuery.toOption.isNone) = true := by decide +kernel
  obtain ⟨row, member, none⟩ := List.any_eq_true.mp unread
  refine ⟨row, member, ?_⟩
  rintro ⟨query, read⟩
  rw [read] at none
  cases none

/-- After the stray request the table keeps a stray count, and everybody's list holds a faulty
row. -/
theorem readable_and_listed_stray :
    (∃ row ∈ (step freshService strayRequest).2.saved, row.KeepsStray) ∧
      ¬∀ row ∈ (step freshService strayRequest).2.saved.visible none none, ¬row.IsFaulty := by
  constructor
  · obtain ⟨row, member, unread⟩ := unreadable_stray
    refine ⟨row, member, ?_⟩
    have readable := ((readable_and_listed_iff reachable_stray).1 row member).1
    exact not_not.mp fun ordinary => unread (readable.mpr ordinary)
  · rw [← (readable_and_listed_iff reachable_stray).2 listRequest none none isListing_listRequest]
    decide +kernel

/-- It is not the case that every row that can be stored is read back. -/
theorem unreadable_though_stored :
    ¬∀ rows, Reachable rows → ∀ row ∈ rows, ∃ query, row.toQuery = .ok query := by
  intro all
  obtain ⟨row, member, unread⟩ := unreadable_stray
  exact unread (all _ reachable_stray row member)

end WorkQuery.Service
