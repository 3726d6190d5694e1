/-
This file proves what a page says about the work packages that a query selects. Those are the work
packages that pass each filter alone (`selected`); a filter without a condition is left out, and a
truth that is unknown does not pass. The total is their number, whatever the order and the page, and
a page holds different ones of them, as many as its bounds leave (`page_of_run`). The statement that
counts and the one that reads a page have their tables and conditions in common; as they are
written, they read every work package once, and a run answers out of the rows that they read
(`rows_of_run`).
-/

import WorkQuery.Proofs.FilterCondition
import WorkQuery.Proofs.JoinClause
import WorkQuery.Proofs.JoinedRows
import WorkQuery.Proofs.Outcome
import WorkQuery.Table.Listing

namespace WorkQuery

open Calendar Sql Text

/-! ### Statements -/

namespace Sql

/-- What both statements of a query read: the tables, and the conditions if there are any. -/
def sourceText (whereText : String) : String :=
  if whereText = "" then fromClause else fromClause ++ "\n" ++ "WHERE " ++ whereText

theorem countText_eq (whereText : String) :
    countText whereText = "SELECT COUNT(*) AS count" ++ "\n" ++ sourceText whereText := by
  unfold countText sourceText
  split <;> simp only [List.cons_append, List.nil_append, List.append_nil,
    String.intercalate_cons_cons, String.intercalate_singleton, String.append_assoc]

theorem selectText_eq (whereText orderText : String) :
    selectText whereText orderText =
      "SELECT" ++ "\n" ++ selectList ++ "\n" ++ sourceText whereText ++ "\n" ++ orderText ++
        "\n" ++ "LIMIT :limit OFFSET :offset" := by
  unfold selectText sourceText
  split <;> simp only [List.cons_append, List.nil_append, List.append_nil,
    String.intercalate_cons_cons, String.intercalate_singleton, String.append_assoc]

theorem firstHalves?_of_notMem {text : List Char} (plain : mark ∉ text) :
    firstHalves? (symbols text) = none := by
  rw [symbols_of_notMem plain]
  simp [firstHalves?, List.takeWhile_map, Function.comp_def]

theorem mark_notMem_countText {whereText : String} (plain : mark ∉ whereText.toList) :
    mark ∉ (countText whereText).toList := by
  have tables : mark ∉ fromClause.toList := by decide +kernel
  have words : mark ∉ "SELECT COUNT(*) AS count".toList ∧ mark ∉ "\n".toList ∧
      mark ∉ "WHERE ".toList := by decide +kernel
  rw [countText_eq, sourceText]
  split
  · simp only [String.toList_append, List.mem_append, not_or]
    exact ⟨⟨words.1, words.2.1⟩, tables⟩
  · simp only [String.toList_append, List.mem_append, not_or]
    exact ⟨⟨words.1, words.2.1⟩, ⟨⟨tables, words.2.1⟩, words.2.2⟩, plain⟩

/-- Conditions without places and halves are taken if they are accepted once they are sent. -/
theorem fault?_eq_none {conditions : List Condition} {keys : List SortKey}
    (noPlace : placeEnds (whereText conditions).toList = [])
    (plain : mark ∉ (whereText conditions).toList)
    (accepted : isAccepted conditions keys = true) : fault? conditions keys = none := by
  unfold fault?
  dsimp only
  rw [noPlace, firstHalves?_of_notMem (mark_notMem_countText plain), accepted]
  rfl

/-- Whatever the conjuncts mean, the conditions of a filter set hold as they are written if the
condition of each filter holds alone. -/
theorem textHolds_filterConditions (meaning : List Token → Prop) (user : Option Int)
    (filters : FilterSet) :
    TextHolds meaning (whereText (filterConditions user filters)) ↔
      ∀ filter ∈ filters.filters, ∀ condition ∈ condition? user filter,
        TextHolds meaning condition.render := by
  rw [textHolds_whereText]
  exact forall_mem_filterConditions

end Sql

/-! ### Selected work packages -/

/-- A work package passes a filter if the condition of the filter, if it has one, is true of it. -/
def Passes (tables : Tables) (today : Date) (user : Option Int) (item : WorkPackage)
    (filter : Filter) : Prop :=
  ∀ condition ∈ condition? user filter,
    condition.holds? today (joinedRow tables item) = some true

instance (tables : Tables) (today : Date) (user : Option Int) (item : WorkPackage)
    (filter : Filter) : Decidable (Passes tables today user item filter) :=
  inferInstanceAs (Decidable (∀ condition ∈ condition? user filter, _))

/-- The work packages that pass every filter of a set, each taken alone, in the order of the
table. -/
def passing (tables : Tables) (today : Date) (user : Option Int) (filters : FilterSet) :
    List WorkPackage :=
  tables.workPackages.filter fun item =>
    decide (∀ filter ∈ filters.filters, Passes tables today user item filter)

/-- The set of the work packages that pass every filter of a set. -/
def selected (tables : Tables) (today : Date) (user : Option Int) (filters : FilterSet) :
    Finset WorkPackage :=
  (passing tables today user filters).toFinset

theorem mem_selected {tables : Tables} {today : Date} {user : Option Int} {filters : FilterSet}
    {item : WorkPackage} :
    item ∈ selected tables today user filters ↔
      item ∈ tables.workPackages ∧
        ∀ filter ∈ filters.filters, Passes tables today user item filter := by
  rw [selected, passing, List.mem_toFinset, List.mem_filter, decide_eq_true_iff]

theorem Tables.HasDistinctIds.nodup_passing {tables : Tables} (distinct : tables.HasDistinctIds)
    (today : Date) (user : Option Int) (filters : FilterSet) :
    ((passing tables today user filters).map WorkPackage.id).Nodup :=
  distinct.workPackages.sublist (List.filter_sublist.map _)

/-- More filters select no further work packages. -/
theorem selected_subset (tables : Tables) (today : Date) (user : Option Int)
    {filters more : FilterSet} (contains : filters.filters ⊆ more.filters) :
    selected tables today user more ⊆ selected tables today user filters := by
  intro item found
  rw [mem_selected] at found ⊢
  exact ⟨found.1, fun filter member => found.2 filter (contains member)⟩

/-- The order of the filters makes no difference. -/
theorem selected_perm (tables : Tables) (today : Date) (user : Option Int)
    {filters others : FilterSet} (permuted : others.filters.Perm filters.filters) :
    selected tables today user others = selected tables today user filters :=
  (selected_subset tables today user permuted.symm.subset).antisymm
    (selected_subset tables today user permuted.subset)

/-- The conditions of a filter set select a joined row if its work package passes every filter. -/
theorem selects_joinedRow (tables : Tables) (today : Date) (user : Option Int)
    (filters : FilterSet) (item : WorkPackage) :
    selects today (filterConditions user filters) (joinedRow tables item) = true ↔
      ∀ filter ∈ filters.filters, Passes tables today user item filter := by
  rw [selects, List.all_eq_true]
  simp only [beq_iff_eq]
  exact forall_mem_filterConditions

/-- The work packages of the rows that the conditions of a filter set select. -/
theorem items_matching {tables : Tables} (distinct : tables.HasDistinctIds) (today : Date)
    (user : Option Int) (filters : FilterSet) :
    (Database.matching tables today (filterConditions user filters)).map JoinedRow.item =
      passing tables today user filters := by
  unfold Database.matching passing
  rw [joinedRows_eq distinct, List.filter_map, List.map_map]
  have same : JoinedRow.item ∘ joinedRow tables = id := rfl
  rw [same, List.map_id]
  congr 1
  funext item
  rw [Bool.eq_iff_iff, decide_eq_true_iff]
  exact selects_joinedRow tables today user filters item

/-! ### Pages -/

/-- A request takes at least one row and skips none or more. -/
structure PageRequest.IsSound (request : PageRequest) : Prop where
  limit : 0 < request.limit
  offset : 0 ≤ request.offset

theorem PageRequest.checkLimit_eq_ok_iff {limit checked : Int} :
    PageRequest.checkLimit limit = .ok checked ↔
      checked = limit ∧ 0 < limit ∧ limit ≤ greatestBound := by
  unfold PageRequest.checkLimit
  split
  · exact iff_of_false nofun (by omega)
  · split
    · exact iff_of_false nofun (by omega)
    · rw [Except.ok.injEq]
      omega

theorem PageRequest.checkOffset_eq_ok_iff {offset checked : Int} :
    PageRequest.checkOffset offset = .ok checked ↔
      checked = offset ∧ 0 ≤ offset ∧ offset ≤ greatestBound := by
  unfold PageRequest.checkOffset
  split
  · exact iff_of_false nofun (by omega)
  · split
    · exact iff_of_false nofun (by omega)
    · rw [Except.ok.injEq]
      omega

/-- Requests that are made from checked parts are sound. -/
theorem PageRequest.isSound_of_ofParts {limit offset : Schema.Checked Int} {request : PageRequest}
    (made : PageRequest.ofParts limit offset = .ok request) : request.IsSound := by
  obtain ⟨makeRequest, skipped, first, second, rfl⟩ := Schema.both_eq_ok made
  obtain ⟨taken, read, rfl⟩ := map_eq_ok.mp first
  rw [Schema.within_eq_ok] at read second
  obtain ⟨limit, -, limitFits⟩ := bind_eq_ok.mp read
  obtain ⟨offset, -, offsetFits⟩ := bind_eq_ok.mp second
  obtain ⟨rfl, positive, -⟩ := checkLimit_eq_ok_iff.mp limitFits
  obtain ⟨rfl, natural, -⟩ := checkOffset_eq_ok_iff.mp offsetFits
  exact ⟨positive, natural⟩

/-- A page of work packages that have been found: different ones of them, as many as the bounds of
the request leave, with the number of all. -/
structure IsPageOf (found : Finset WorkPackage) (request : PageRequest)
    (page : Page WorkPackage) : Prop where
  total : page.total = found.card
  found : ∀ item ∈ page.items, item ∈ found
  distinct : (page.items.map WorkPackage.id).Nodup
  length : (page.items.length : Int) = min request.limit (max 0 (page.total - request.offset))

/-- Any cut of distinct work packages, in whatever order, is a page of them. -/
theorem isPageOf_cut {found ordered : List WorkPackage} {request : PageRequest}
    (distinct : (found.map WorkPackage.id).Nodup) (permuted : ordered.Perm found)
    (sound : request.IsSound) :
    IsPageOf found.toFinset request
      ⟨(ordered.drop request.offset.toNat).take request.limit.toNat, found.length, request⟩ := by
  have part : ((ordered.drop request.offset.toNat).take request.limit.toNat).Sublist ordered :=
    (List.take_sublist _ _).trans (List.drop_sublist _ _)
  constructor
  · exact (List.toFinset_card_of_nodup (List.Nodup.of_map _ distinct)).symm
  · intro item member
    exact List.mem_toFinset.mpr (permuted.subset (part.subset member))
  · exact ((permuted.map WorkPackage.id).nodup_iff.mpr distinct).sublist (part.map _)
  · have positive := sound.limit
    have natural := sound.offset
    rw [List.length_take, List.length_drop, permuted.length_eq]
    dsimp only
    omega

theorem sortRows_perm (keys : List SortKey) (rows : List JoinedRow) :
    (sortRows keys rows).Perm rows :=
  List.mergeSort_perm rows _

/-- A query that the store takes is run. -/
theorem exists_run {database : Database} {tables : Tables} {query : Query} {user : Option Int}
    (request : PageRequest) (stored : database.tables = some tables)
    (taken : fault? (select query user).conditions (select query user).keys = none) :
    ∃ page, database.run query request user = .ok page := by
  unfold Database.run
  rw [stored]
  dsimp only
  rw [taken]
  exact ⟨_, rfl⟩

/-- A run that succeeds puts the work packages that pass the filters into some order and cuts a page
out of them. -/
theorem exists_order_of_run {database : Database} {tables : Tables} {query : Query}
    {request : PageRequest} {user : Option Int} {page : Page WorkPackage}
    (stored : database.tables = some tables) (keyed : tables.HasDistinctIds)
    (ran : database.run query request user = .ok page) :
    ∃ ordered : List WorkPackage,
      ordered.Perm (passing tables database.today user query.filters) ∧
        page = ⟨(ordered.drop request.offset.toNat).take request.limit.toNat,
          (passing tables database.today user query.filters).length, request⟩ := by
  have items := items_matching keyed database.today user query.filters
  unfold Database.run at ran
  rw [stored] at ran
  dsimp only at ran
  cases faults : fault? (select query user).conditions (select query user).keys with
  | some failure =>
    rw [faults] at ran
    cases ran
  | none =>
    rw [faults] at ran
    refine ⟨_, items ▸ (sortRows_perm (sortKeys query.sorts) _).map JoinedRow.item, ?_⟩
    rw [← items, List.length_map, ← List.map_drop, ← List.map_take]
    exact (Except.ok.inj ran).symm

theorem total_of_run {database : Database} {tables : Tables} {query : Query}
    {request : PageRequest} {user : Option Int} {page : Page WorkPackage}
    (stored : database.tables = some tables) (keyed : tables.HasDistinctIds)
    (ran : database.run query request user = .ok page) :
    page.total = (selected tables database.today user query.filters).card := by
  obtain ⟨ordered, -, rfl⟩ := exists_order_of_run stored keyed ran
  exact (List.toFinset_card_of_nodup (List.Nodup.of_map _ (keyed.nodup_passing _ _ _))).symm

/-- Both statements of a query read every work package once, and a run takes what it answers from
the rows that they read. -/
theorem rows_of_run {database : Database} {tables : Tables} {query : Query}
    {request : PageRequest} {user : Option Int} {page : Page WorkPackage}
    (stored : database.tables = some tables) (keyed : tables.HasDistinctIds)
    (ran : database.run query request user = .ok page) :
    let selection := select query user
    ∃ rows, rowsByText? tables (countText selection.whereText) = some rows ∧
      rowsByText? tables (selectText selection.whereText selection.orderText) = some rows ∧
      rows.map JoinedRow.item = tables.workPackages ∧
      page.total = (rows.filter (selects database.today selection.conditions)).length ∧
      page.items ⊆
        (rows.filter (selects database.today selection.conditions)).map JoinedRow.item := by
  intro selection
  obtain ⟨counted, listed⟩ := rowsByText?_statements tables selection.conditions selection.keys
  have items : ((joinedRows tables).filter (selects database.today selection.conditions)).map
      JoinedRow.item = passing tables database.today user query.filters :=
    items_matching keyed database.today user query.filters
  obtain ⟨ordered, permuted, rfl⟩ := exists_order_of_run stored keyed ran
  refine ⟨joinedRows tables, counted, listed, ?_, ?_, ?_⟩
  · rw [joinedRows_eq keyed, List.map_map]
    exact List.map_id _
  · rw [← items, List.length_map]
  · rw [items]
    exact (List.Subset.trans ((List.take_sublist _ _).trans (List.drop_sublist _ _)).subset
      permuted.subset)

/-- A page that a query is answered with, whatever its order, holds different work packages out of
those that pass each filter alone, and its total is their number. -/
theorem page_of_run {database : Database} {tables : Tables} {query : Query}
    {request : PageRequest} {user : Option Int} {page : Page WorkPackage}
    (stored : database.tables = some tables) (keyed : tables.HasDistinctIds)
    (sound : request.IsSound) (ran : database.run query request user = .ok page) :
    let found := selected tables database.today user query.filters
    IsPageOf found request page ∧
      (∀ filters, filters.filters.Perm query.filters.filters →
        selected tables database.today user filters = found) ∧
      (∀ filter, selected tables database.today user (query.filters.add filter) ⊆ found) ∧
      (∀ other request' page', other.filters.filters.Perm query.filters.filters →
        database.run other request' user = .ok page' → page'.total = page.total) ∧
      (∀ meaning, TextHolds meaning (select query user).whereText ↔
        ∀ filter ∈ query.filters.filters, ∀ condition ∈ condition? user filter,
          TextHolds meaning condition.render) ∧
      (∀ whereText orderText,
        countText whereText = "SELECT COUNT(*) AS count" ++ "\n" ++ sourceText whereText ∧
        selectText whereText orderText = "SELECT" ++ "\n" ++ selectList ++ "\n" ++
          sourceText whereText ++ "\n" ++ orderText ++ "\n" ++
          "LIMIT :limit OFFSET :offset") ∧
      ∃ rows, rowsByText? tables (countText (select query user).whereText) = some rows ∧
        rowsByText? tables
          (selectText (select query user).whereText (select query user).orderText) = some rows ∧
        rows.map JoinedRow.item = tables.workPackages ∧
        page.total = (rows.filter (selects database.today (select query user).conditions)).length ∧
        page.items ⊆ (rows.filter (selects database.today (select query user).conditions)).map
          JoinedRow.item := by
  intro found
  have permuted (filters : FilterSet) (same : filters.filters.Perm query.filters.filters) :
      selected tables database.today user filters = found := selected_perm tables _ user same
  refine ⟨?_, permuted, ?_, ?_, ?_, ?_, rows_of_run stored keyed ran⟩
  · obtain ⟨ordered, reordered, rfl⟩ := exists_order_of_run stored keyed ran
    exact isPageOf_cut (keyed.nodup_passing _ _ _) reordered sound
  · intro filter
    exact selected_subset tables _ user (List.subset_append_left _ _)
  · intro other request' page' same ran'
    rw [total_of_run stored keyed ran, total_of_run stored keyed ran', permuted _ same]
  · intro meaning
    exact textHolds_filterConditions meaning user query.filters
  · intro whereText orderText
    exact ⟨countText_eq whereText, selectText_eq whereText orderText⟩

/-- A work package of a status that may be assigned to somebody and may start on a day. -/
def plannedItem (id statusId : Int) (assignedToId : Option Int) (startDate : Option Date) :
    WorkPackage where
  id := id
  subject := ""
  description := none
  projectId := 1
  typeId := 1
  statusId := statusId
  priorityId := none
  authorId := none
  assignedToId := assignedToId
  responsibleId := none
  categoryId := none
  versionId := none
  parentId := none
  startDate := startDate
  dueDate := none
  estimatedHours := none
  doneRatio := 0
  lockVersion := 0
  createdAt := ⟨⟨2024, 12, 2, by decide⟩, 0, 0, 0, 0, by decide⟩
  updatedAt := ⟨⟨2024, 12, 2, by decide⟩, 0, 0, 0, 0, by decide⟩
  position := none
  storyPoints := none
  remainingHours := none
  scheduleManually := false
  duration := none

/-- Tables with three work packages of the user 5. The first has no start, so that it is unknown
whether it starts in a year; the status of the last and the types are missing. -/
def plannedTables : Tables where
  statuses := [⟨1, "New", false, some 1⟩]
  types := []
  enumerations := []
  workPackages := [plannedItem 1 1 (some 5) none,
    plannedItem 2 1 (some 5) (some ⟨2025, 5, 1, by decide⟩),
    plannedItem 3 7 (some 5) (some ⟨2025, 5, 2, by decide⟩)]

/-- The tables on a day. -/
def plannedDatabase : Database := ⟨some plannedTables, ⟨2025, 4, 1, by decide⟩⟩

/-- The query for what starts in the year 2025 and is assigned to the requester. -/
def plannedQuery : Query :=
  ((Query.plain "Planned").withFilter
    ⟨"start_date", .fixed .between,
      .dates ⟨2025, 1, 1, by decide⟩ ⟨2025, 12, 31, by decide⟩⟩).withFilter
    ⟨"assigned_to_id", .fixed .currentUserEquals, .currentUser⟩

theorem page_of_run_planned :
    ∃ page, plannedDatabase.run plannedQuery ⟨1, 1⟩ (some 5) = .ok page ∧
      page.total = 2 ∧ page.items.length = 1 ∧
      IsPageOf (selected plannedTables plannedDatabase.today (some 5) plannedQuery.filters) ⟨1, 1⟩
        page := by
  have taken : fault? (select plannedQuery (some 5)).conditions
      (select plannedQuery (some 5)).keys = none :=
    fault?_eq_none (by decide +kernel) (by decide +kernel) (by decide +kernel)
  obtain ⟨page, ran⟩ := exists_run ⟨1, 1⟩ (rfl : plannedDatabase.tables = some plannedTables) taken
  have isPage := (page_of_run rfl ⟨by decide, by decide, by decide, by decide⟩
    ⟨by decide, by decide⟩ ran).1
  have total : page.total = 2 := isPage.total.trans (by decide +kernel)
  have length := isPage.length
  rw [total] at length
  exact ⟨page, ran, total, Int.ofNat.inj length, isPage⟩

end WorkQuery
