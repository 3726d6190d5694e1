/-
This file says for which sort orders a list can be gone through page by page. Every page is a
request of its own, and rows that no sort key tells apart may come in another order each time. So a
work package may be on two pages and another one on none. That cannot happen if the number of the
work packages is among the sort keys, since only one order of the rows is left then
(`ordered_unique`); and for any other order it does happen with two work packages that differ in
their number only (`pages_hold_all_iff`).
-/

import WorkQuery.Proofs.PageCount
import WorkQuery.Proofs.SelectedPage
import WorkQuery.Proofs.StoredOrder

namespace WorkQuery

open Calendar Sql

/-! ### Pages that a store may answer with -/

/-- The page that is cut out of rows. -/
def pageOf (rows : List JoinedRow) (request : PageRequest) : Page WorkPackage :=
  ⟨((rows.drop request.offset.toNat).take request.limit.toNat).map JoinedRow.item, rows.length,
    request⟩

/-- A page that a store may answer a request with: it puts the selected rows in some order that the
sort keys of the query allow. -/
def MayAnswer (tables : Tables) (today : Date) (query : Query) (user : Option Int)
    (request : PageRequest) (page : Page WorkPackage) : Prop :=
  ∃ ordered : List JoinedRow,
    ordered.Perm (Database.matching tables today (select query user).conditions) ∧
      AreOrdered (orderKeys query.sorts) ordered ∧ page = pageOf ordered request

/-- The answers to the requests for all pages of a size, each of which the store may have put in an
order of its own. -/
def IsPaging (tables : Tables) (today : Date) (query : Query) (user : Option Int) (size : Int)
    (answer : Nat → Page WorkPackage) : Prop :=
  ∀ (number : Nat) request, 1 ≤ number → PageRequest.ofPage number size = .ok request →
    MayAnswer tables today query user request (answer number)

/-- What a number of pages hold, one after the other. -/
def itemsOfPages (answer : Nat → Page WorkPackage) (count : Int) : List WorkPackage :=
  (List.range count.toNat).flatMap fun index => (answer (index + 1)).items

/-- Whatever the tables, the query and the size of the pages are, the pages hold each work package
that passes the filters exactly once. There have to be few enough work packages for the number of
pages to be counted without error. -/
def SortOrder.PagesHoldAll (order : SortOrder) : Prop :=
  ∀ (tables : Tables) (today : Date) (query : Query) (user : Option Int) (size : Int)
    (answer : Nat → Page WorkPackage), tables.HasDistinctIds → query.sorts = order →
    0 < size → size ≤ greatestBound → IsPaging tables today query user size answer →
    (answer 1).total ≤ 2 ^ 53 →
    ∃ count, (answer 1).request.pages (answer 1).total = .ok count ∧
      (itemsOfPages answer count).Perm (passing tables today user query.filters)

/-! ### Pages that are run -/

section Runs

variable {database : Database} {tables : Tables} {query : Query} {user : Option Int}

/-- A run answers with a page that a store may answer with, if no hours are stored that are no
number. -/
theorem mayAnswer_of_run {request : PageRequest} {page : Page WorkPackage}
    (stored : database.tables = some tables) (keyed : tables.HasDistinctIds)
    (hours : ∀ item ∈ tables.workPackages,
      item.estimatedHours ≠ some .notANumber ∧ item.remainingHours ≠ some .notANumber)
    (ran : database.run query request user = .ok page) :
    MayAnswer tables database.today query user request page := by
  have isPlaced : ∀ row ∈ joinedRows tables, row.IsPlaced := by
    intro row member
    rw [joinedRows_eq keyed] at member
    obtain ⟨item, inside, rfl⟩ := List.mem_map.mp member
    exact isPlaced_of_hours (hours item inside).1 (hours item inside).2
  unfold Database.run at ran
  rw [stored] at ran
  dsimp only at ran
  split at ran
  · cases ran
  · cases ran
  · rename_i same
    obtain rfl := Option.some.inj same
    have permuted := sortRows_perm (select query user).keys
      (Database.matching tables database.today (select query user).conditions)
    refine ⟨_, permuted, ?_, ?_⟩
    · exact areOrdered_sortRows query.sorts fun row member =>
        isPlaced row (List.mem_of_mem_filter member)
    · rw [← Except.ok.inj ran, pageOf, permuted.length_eq]

/-- Pages that are run one by one are answers to the requests for all of them. -/
theorem isPaging_of_run {size : Int} {answer : Nat → Page WorkPackage}
    (stored : database.tables = some tables) (keyed : tables.HasDistinctIds)
    (hours : ∀ item ∈ tables.workPackages,
      item.estimatedHours ≠ some .notANumber ∧ item.remainingHours ≠ some .notANumber)
    (ran : ∀ (number : Nat) request, PageRequest.ofPage number size = .ok request →
      database.run query request user = .ok (answer number)) :
    IsPaging tables database.today query user size answer :=
  fun number request _ asked => mayAnswer_of_run stored keyed hours (ran number request asked)

end Runs

/-! ### Requests for pages -/

namespace PageRequest

theorem ofParts_eq_ok_iff {limit offset : Int} {request : PageRequest} :
    ofParts (.ok limit) (.ok offset) = .ok request ↔
      request = ⟨limit, offset⟩ ∧ 0 < limit ∧ limit ≤ greatestBound ∧ 0 ≤ offset ∧
        offset ≤ greatestBound := by
  constructor
  · intro made
    obtain ⟨makeRequest, skipped, first, second, rfl⟩ := Schema.both_eq_ok made
    obtain ⟨taken, read, rfl⟩ := map_eq_ok.mp first
    rw [Schema.within_eq_ok] at read second
    obtain ⟨rfl, positive, fits⟩ := checkLimit_eq_ok_iff.mp read
    obtain ⟨rfl, natural, within⟩ := checkOffset_eq_ok_iff.mp second
    exact ⟨rfl, positive, fits, natural, within⟩
  · rintro ⟨rfl, positive, fits, natural, within⟩
    have first := checkLimit_eq_ok_iff.mpr ⟨rfl, positive, fits⟩
    have second := checkOffset_eq_ok_iff.mpr ⟨rfl, natural, within⟩
    unfold ofParts
    rw [ok_bind, ok_bind, first, second]
    rfl

/-- The request for a page: smaller numbers than one mean the first page. -/
theorem ofPage_eq_ok_iff {page size : Int} {request : PageRequest} :
    ofPage page size = .ok request ↔
      request = ⟨size, (max page 1 - 1) * size⟩ ∧ 1 ≤ size ∧ size ≤ greatestBound ∧
        (max page 1 - 1) * size ≤ greatestBound := by
  rw [ofPage, ofParts_eq_ok_iff]
  refine and_congr_right fun _ => and_congr_right fun positive => and_congr_right fun _ => ?_
  exact and_iff_right (Int.mul_nonneg (by omega) positive.le)

/-- The request for a page that is numbered from one. -/
theorem ofPage_succ_eq_ok_iff {index : Nat} {size : Int} {request : PageRequest} :
    ofPage (index + 1 : Nat) size = .ok request ↔
      request = ⟨size, index * size⟩ ∧ 1 ≤ size ∧ size ≤ greatestBound ∧
        index * size ≤ greatestBound := by
  have skipped : max ((index + 1 : Nat) : Int) 1 - 1 = index := by omega
  rw [ofPage_eq_ok_iff, skipped]

end PageRequest

/-! ### Orders that decide -/

theorem row_eq_of_id_eq {tables : Tables} (distinct : tables.HasDistinctIds) {today : Date}
    {conditions : List Condition} {left right : JoinedRow}
    (member : left ∈ Database.matching tables today conditions)
    (memberToo : right ∈ Database.matching tables today conditions)
    (same : left.item.id = right.item.id) : left = right := by
  have found := List.mem_of_mem_filter member
  have foundToo := List.mem_of_mem_filter memberToo
  rw [joinedRows_eq distinct] at found foundToo
  obtain ⟨item, inside, rfl⟩ := List.mem_map.mp found
  obtain ⟨item', inside', rfl⟩ := List.mem_map.mp foundToo
  rw [List.inj_on_of_nodup_map distinct.workPackages inside inside' same]

/-- A decisive order leaves one order of the selected rows. -/
theorem ordered_unique {tables : Tables} (distinct : tables.HasDistinctIds) {today : Date}
    {conditions : List Condition} {order : SortOrder} (decisive : order.IsDecisive)
    {first second : List JoinedRow}
    (permuted : first.Perm (Database.matching tables today conditions))
    (permutedToo : second.Perm (Database.matching tables today conditions))
    (ordered : AreOrdered (orderKeys order) first)
    (orderedToo : AreOrdered (orderKeys order) second) : first = second := by
  refine List.Perm.eq_of_pairwise ?_ ordered orderedToo (permuted.trans permutedToo.symm)
  intro left right member memberToo precedes precedesToo
  have tied := compareRows_eq_of_ne_gt precedes precedesToo
  have same := id_eq_of_compareRows_eq (exists_id_key_iff.mpr decisive) tied
  exact row_eq_of_id_eq distinct (permuted.subset member) (permutedToo.subset memberToo) same

/-- A list is made of the pieces that it is cut into. -/
theorem take_mul_eq_flatMap {Content : Type} (contents : List Content) (width count : Nat) :
    contents.take (count * width) =
      (List.range count).flatMap fun index => (contents.drop (index * width)).take width := by
  induction count with
  | zero => simp
  | succ count inductionHypothesis =>
    calc contents.take ((count + 1) * width)
        = contents.take (count * width) ++ (contents.drop (count * width)).take width := by
          rw [Nat.succ_mul, List.take_add]
      _ = (List.range (count + 1)).flatMap fun index =>
            (contents.drop (index * width)).take width := by
          rw [inductionHypothesis, List.range_succ, List.flatMap_append, List.flatMap_singleton]

/-- As many pages as are counted have room for all rows, and each of them begins before the last. -/
theorem le_mul_and_mul_lt_of_ceil {length width count : Nat} (positive : 0 < width)
    (counted : ⌈(length : ℚ) / width⌉ = count) :
    length ≤ count * width ∧ ∀ index < count, index * width < length := by
  have above : (0 : ℚ) < width := Nat.cast_pos.mpr positive
  constructor
  · have upper := Int.le_ceil ((length : ℚ) / width)
    rw [counted, div_le_iff₀ above] at upper
    exact_mod_cast upper
  · intro index before
    have lower := Int.ceil_lt_add_one ((length : ℚ) / width)
    have next : (index : ℚ) + 1 ≤ count := by exact_mod_cast before
    rw [counted] at lower
    push_cast at lower
    have below : (index : ℚ) < length / width := by linarith
    rw [lt_div_iff₀ above] at below
    exact_mod_cast below

/-- The pages that are cut out of rows hold all of them. -/
theorem itemsOfPages_eq {answer : Nat → Page WorkPackage} {rows : List JoinedRow} {width : Nat}
    (positive : 0 < width)
    (pages : ∀ index : Nat, index * width < rows.length →
      answer (index + 1) = pageOf rows ⟨width, index * width⟩) :
    itemsOfPages answer ⌈(rows.length : ℚ) / width⌉ = rows.map JoinedRow.item := by
  have natural : 0 ≤ ⌈(rows.length : ℚ) / width⌉ := Int.ceil_nonneg (by positivity)
  obtain ⟨count, counted⟩ := Int.eq_ofNat_of_zero_le natural
  obtain ⟨enough, inside⟩ := le_mul_and_mul_lt_of_ceil positive counted
  have cut : ∀ index ∈ List.range count, (answer (index + 1)).items =
      ((rows.drop (index * width)).take width).map JoinedRow.item := by
    intro index member
    rw [pages index (inside index (List.mem_range.mp member))]
    rfl
  rw [counted, itemsOfPages, Int.toNat_natCast, List.flatMap_congr cut, ← List.map_flatMap,
    ← take_mul_eq_flatMap, List.take_of_length_le enough]

/-- With a decisive order the pages hold all work packages. -/
theorem SortOrder.IsDecisive.pagesHoldAll {order : SortOrder} (decisive : order.IsDecisive) :
    order.PagesHoldAll := by
  rintro tables today query user size answer distinct rfl positive fits paging few
  obtain ⟨width, rfl⟩ := Int.eq_ofNat_of_zero_le positive.le
  have answered (index : Nat) (inside : index * (width : Int) ≤ greatestBound) :=
    paging (index + 1) ⟨width, index * width⟩ (Nat.succ_pos index)
      (PageRequest.ofPage_succ_eq_ok_iff.mpr ⟨rfl, positive, fits, inside⟩)
  obtain ⟨rows, permuted, ordered, first⟩ := answered 0 (by rw [greatestBound]; omega)
  rw [Nat.zero_add] at first
  have total : (answer 1).total = rows.length := by
    rw [first]
    rfl
  rw [total] at few ⊢
  refine ⟨⌈(rows.length : ℚ) / width⌉, ?_, ?_⟩
  · rw [first]
    exact PageRequest.pages_eq positive (fits.trans_lt (by decide +kernel)) few
  · rw [itemsOfPages_eq (by exact_mod_cast positive), ← items_matching distinct]
    · exact permuted.map JoinedRow.item
    · intro index inside
      obtain ⟨rows', permuted', ordered', page⟩ := answered index (by
        rw [greatestBound]
        have : ((index * width : Nat) : Int) < rows.length := by exact_mod_cast inside
        push_cast at this
        omega)
      rw [page, ordered_unique distinct decisive permuted permuted' ordered ordered']

/-! ### Orders that do not decide -/

/-- One of several work packages that differ in their number only. -/
def twin (id : Int) : WorkPackage := plannedItem id 1 none none

/-- Tables with two work packages that differ in their number only. -/
def twinTables : Tables := ⟨[], [], [], [twin 1, twin 2]⟩

/-- The joined row of one of them. -/
def twinRow (id : Int) : JoinedRow := joinedRow twinTables (twin id)

/-- The query for all work packages in an order. -/
def twinQuery (order : SortOrder) : Query := (Query.plain "Twins").withSorts order

theorem hasDistinctIds_twins : twinTables.HasDistinctIds :=
  ⟨by decide, by decide, by decide, by decide⟩

theorem matching_twins (today : Date) (order : SortOrder) :
    Database.matching twinTables today (select (twinQuery order) none).conditions =
      [twinRow 1, twinRow 2] := by
  unfold Database.matching
  rw [joinedRows_eq hasDistinctIds_twins]
  rfl

theorem passing_twins (today : Date) (order : SortOrder) :
    passing twinTables today none (twinQuery order).filters = [twin 1, twin 2] := rfl

theorem cell_twinRow {column : Reference} (other : column ≠ .item .id) (first second : Int) :
    column.cell (twinRow first) = column.cell (twinRow second) := by
  cases column with
  | item field =>
    cases field with
    | id => exact absurd rfl other
    | _ => rfl
  | _ => rfl

/-- An order that is not decisive does not tell the twins apart. -/
theorem compareRows_twins {order : SortOrder} (indecisive : ¬order.IsDecisive)
    (first second : Int) :
    compareRows (orderKeys order) (twinRow first) (twinRow second) = .eq :=
  compareRows_eq_of_cells (mt exists_id_key_iff.mp indecisive) fun _ other =>
    cell_twinRow other first second

/-- A store may answer with the twins in either order. -/
theorem mayAnswer_twins {order : SortOrder} (indecisive : ¬order.IsDecisive) (today : Date)
    {ids : List Int} (permuted : ids.Perm [1, 2]) (request : PageRequest) :
    MayAnswer twinTables today (twinQuery order) none request
      (pageOf (ids.map twinRow) request) := by
  refine ⟨ids.map twinRow, ?_, ?_, rfl⟩
  · rw [matching_twins]
    exact permuted.map twinRow
  · refine List.pairwise_map.mpr (List.pairwise_of_forall fun first second precedes => ?_)
    rw [show (twinQuery order).sorts = order from rfl, compareRows_twins indecisive] at precedes
    cases precedes

/-- Answers to the requests for pages of one work package: the second of them comes from another
order of the twins than all the others. -/
def twinAnswer (number : Nat) : Page WorkPackage :=
  pageOf ((if number = 2 then [2, 1] else [1, 2]).map twinRow) ⟨1, number - 1⟩

theorem isPaging_twins {order : SortOrder} (indecisive : ¬order.IsDecisive) (today : Date) :
    IsPaging twinTables today (twinQuery order) none 1 twinAnswer := by
  intro number request atLeast asked
  obtain ⟨index, rfl⟩ := Nat.exists_eq_add_of_le' atLeast
  obtain ⟨rfl, -⟩ := PageRequest.ofPage_succ_eq_ok_iff.mp asked
  have same : (⟨1, (index : Int) * 1⟩ : PageRequest) = ⟨1, (index + 1 : Nat) - 1⟩ := by
    congr 1
    push_cast
    ring
  rw [same]
  refine mayAnswer_twins indecisive today ?_ _
  split
  · exact List.Perm.swap 1 2 []
  · exact List.Perm.refl _

theorem pages_twins : PageRequest.pages ⟨1, 0⟩ 2 = .ok 2 := rfl

/-- Without a decisive order the pages may hold a work package twice and another one not at all. -/
theorem SortOrder.not_pagesHoldAll {order : SortOrder} (indecisive : ¬order.IsDecisive) :
    ¬order.PagesHoldAll := by
  intro holds
  obtain ⟨count, counted, complete⟩ := holds twinTables plannedDatabase.today (twinQuery order) none
    1 twinAnswer hasDistinctIds_twins rfl Int.one_pos (by decide) (isPaging_twins indecisive _)
    (by decide)
  obtain rfl : 2 = count := Except.ok.inj (pages_twins.symm.trans counted)
  have missing : twin 2 ∉ itemsOfPages twinAnswer 2 := by decide +kernel
  refine missing (complete.symm.subset ?_)
  rw [passing_twins]
  exact List.mem_cons_of_mem _ List.mem_cons_self

/-! ### Going through a list -/

/-- Pages hold each work package exactly once, whatever order a store puts tied rows in, exactly if
the order is decisive; and just the decisive orders tell any two work packages with different
numbers apart. -/
theorem pages_hold_all_iff (order : SortOrder) :
    (order.PagesHoldAll ↔ order.IsDecisive) ∧
      ((∀ left right : JoinedRow, left.item.id ≠ right.item.id →
        compareRows (orderKeys order) left right ≠ .eq) ↔ order.IsDecisive) := by
  refine ⟨⟨fun holds => ?_, SortOrder.IsDecisive.pagesHoldAll⟩, fun strict => ?_, ?_⟩
  · by_contra indecisive
    exact SortOrder.not_pagesHoldAll indecisive holds
  · by_contra indecisive
    exact strict (twinRow 1) (twinRow 2) (by decide) (compareRows_twins indecisive 1 2)
  · intro decisive left right different tied
    exact different (id_eq_of_compareRows_eq (exists_id_key_iff.mpr decisive) tied)

/-- With the number behind the subject, the pages hold all work packages. -/
theorem pages_hold_all_iff_subject :
    ((SortOrder.single "subject" .ascending).add ⟨"id", .descending⟩).PagesHoldAll :=
  (pages_hold_all_iff _).1.mpr (.inl ⟨⟨"id", .descending⟩, by decide, rfl⟩)

/-- In the order of their status, two work packages with the same status are tied: the first may be
on both of the two pages, and the second on none. -/
theorem tied_on_both_pages :
    let order := SortOrder.single "status" .ascending
    let query := twinQuery order
    let today := plannedDatabase.today
    compareRows (orderKeys order) (twinRow 1) (twinRow 2) = .eq ∧
      PageRequest.ofPage 1 1 = .ok ⟨1, 0⟩ ∧
      MayAnswer twinTables today query none ⟨1, 0⟩ ⟨[twin 1], 2, ⟨1, 0⟩⟩ ∧
      PageRequest.ofPage 2 1 = .ok ⟨1, 1⟩ ∧
      MayAnswer twinTables today query none ⟨1, 1⟩ ⟨[twin 1], 2, ⟨1, 1⟩⟩ ∧
      PageRequest.pages ⟨1, 0⟩ 2 = .ok 2 ∧
      passing twinTables today none query.filters = [twin 1, twin 2] ∧ ¬order.PagesHoldAll := by
  intro order query today
  have indecisive : ¬order.IsDecisive := by
    rintro (⟨criterion, member, named⟩ | unmapped)
    · obtain rfl := List.mem_singleton.mp member
      exact absurd named (by decide)
    · exact absurd (unmapped _ List.mem_cons_self) (by decide)
  refine ⟨compareRows_twins indecisive 1 2, rfl, ?_, rfl, ?_, pages_twins, passing_twins _ _,
    SortOrder.not_pagesHoldAll indecisive⟩
  · exact mayAnswer_twins indecisive today (List.Perm.refl [1, 2]) ⟨1, 0⟩
  · exact mayAnswer_twins indecisive today (List.Perm.swap 1 2 []) ⟨1, 1⟩

end WorkQuery
