/-
This file does the arithmetic of pages. A page can be asked for exactly if its size and the number
of rows before it fit into sixty-four bits, and then it is the page of that number
(`PageRequest.exists_ofPage_iff`, `PageRequest.page_of_ofPage`). Since the pages are counted without
error (`PageRequest.pages_eq`), the rows are cut into just as many pages as are counted: they hold
each row once, none of them is empty, and the page behind them is (`pages_cut_rows`).
-/

import WorkQuery.Proofs.Paging

namespace WorkQuery

namespace PageRequest

/-! ### Numbered pages -/

theorem exists_ofPage_iff {page size : Int} :
    (∃ request, ofPage page size = .ok request) ↔
      1 ≤ size ∧ size ≤ greatestBound ∧ (max page 1 - 1) * size ≤ greatestBound := by
  simp only [ofPage_eq_ok_iff, exists_eq_left]

/-- The page that is asked for has the number that it is asked for by. -/
theorem page_of_ofPage {page size : Int} {request : PageRequest}
    (asked : ofPage page size = .ok request) : request.page = max page 1 := by
  obtain ⟨rfl, positive, -, -⟩ := ofPage_eq_ok_iff.mp asked
  have nonzero : size ≠ 0 := by omega
  rw [PageRequest.page, Int.mul_fdiv_cancel _ nonzero, Int.sub_add_cancel]

/-! ### Rows on pages -/

/-- The rows that are on a page. -/
def cut {Row : Type} (request : PageRequest) (rows : List Row) : List Row :=
  (rows.drop request.offset.toNat).take request.limit.toNat

theorem cut_natCast {Row : Type} (width skipped : Nat) (rows : List Row) :
    cut ⟨width, skipped⟩ rows = (rows.drop skipped).take width := rfl

theorem cut_ne_nil_iff {Row : Type} {width : Nat} (positive : 0 < width) (skipped : Nat)
    (rows : List Row) : cut ⟨width, skipped⟩ rows ≠ [] ↔ skipped < rows.length := by
  rw [cut_natCast, ← List.length_pos_iff, List.length_take, List.length_drop]
  omega

/-- Of few rows even those before the page behind the last one are few enough to be skipped. -/
theorem mul_le_greatestBound {length width count : Nat} (few : length ≤ 2 ^ 53)
    (fits : (width : Int) ≤ greatestBound) (inside : ∀ index < count, index * width < length) :
    ((count * width : Nat) : Int) ≤ greatestBound := by
  unfold greatestBound at *
  cases count with
  | zero => omega
  | succ before =>
    have last := inside before (Nat.lt_succ_self before)
    rw [Nat.succ_mul]
    rcases Nat.eq_zero_or_pos before with rfl | positive
    · omega
    · have narrow : width ≤ before * width := Nat.le_mul_of_pos_left width positive
      omega

end PageRequest

/-- What requests for the pages of a size make of rows, if there are so many pages: the pages hold
the rows one after the other, so that each row is on exactly one of them, none of the pages is
empty, and the page behind them is. -/
structure AreCutInto {Row : Type} (rows : List Row) (size : Int) (count : Nat)
    (request : Nat → PageRequest) : Prop where
  asked : ∀ number : Nat, 1 ≤ number → number ≤ count + 1 →
    PageRequest.ofPage number size = .ok (request number)
  whole : ((List.range count).flatMap fun index => (request (index + 1)).cut rows) = rows
  nonempty : ∀ number : Nat, 1 ≤ number → number ≤ count → (request number).cut rows ≠ []
  beyond : (request (count + 1)).cut rows = []

theorem areCutInto_of_ceil {Row : Type} {rows : List Row} {width count : Nat}
    (positive : 0 < width) (fits : (width : Int) ≤ greatestBound) (few : rows.length ≤ 2 ^ 53)
    (counted : ⌈(rows.length : ℚ) / width⌉ = count) :
    AreCutInto rows width count fun number => ⟨width, ((number - 1) * width : Nat)⟩ := by
  obtain ⟨enough, inside⟩ := le_mul_and_mul_lt_of_ceil positive counted
  have skipped := PageRequest.mul_le_greatestBound few fits inside
  constructor
  · intro number atLeast atMost
    obtain ⟨index, rfl⟩ := Nat.exists_eq_add_of_le' atLeast
    have before : index * width ≤ count * width := Nat.mul_le_mul_right width (by omega)
    refine PageRequest.ofPage_succ_eq_ok_iff.mpr ⟨?_, by exact_mod_cast positive, fits, ?_⟩
    · rw [Nat.add_sub_cancel, Nat.cast_mul]
    · exact_mod_cast (Int.ofNat_le.mpr before).trans skipped
  · calc ((List.range count).flatMap fun index =>
          PageRequest.cut ⟨width, ((index + 1 - 1) * width : Nat)⟩ rows)
        = (List.range count).flatMap fun index => (rows.drop (index * width)).take width := rfl
      _ = rows.take (count * width) := (take_mul_eq_flatMap rows width count).symm
      _ = rows := List.take_of_length_le enough
  · intro number atLeast atMost
    exact (PageRequest.cut_ne_nil_iff positive _ rows).mpr (inside (number - 1) (by omega))
  · rw [Nat.add_sub_cancel, ← not_ne_iff, PageRequest.cut_ne_nil_iff positive]
    exact not_lt.mpr enough

/-- A page can be asked for exactly if its size and the rows before it can be counted in sixty-four
bits, and is the page of that number. The number of pages is the quotient of the total and the page
size, rounded up, although the quotient is rounded to a double first; and into that many pages rows
are cut. -/
theorem pages_cut_rows :
    (∀ page size : Int,
      ((∃ request, PageRequest.ofPage page size = .ok request) ↔
        1 ≤ size ∧ size ≤ greatestBound ∧ (max page 1 - 1) * size ≤ greatestBound) ∧
      ∀ request, PageRequest.ofPage page size = .ok request → request.page = max page 1) ∧
    (∀ (request : PageRequest) (total : Nat), 1 ≤ request.limit → request.limit < 2 ^ 1075 →
      total ≤ 2 ^ 53 → request.pages total = .ok ⌈(total : ℚ) / request.limit⌉) ∧
    ∀ (Row : Type) (rows : List Row) (size : Int), 1 ≤ size → size ≤ greatestBound →
      rows.length ≤ 2 ^ 53 →
      ∃ (count : Nat) (request : Nat → PageRequest), AreCutInto rows size count request ∧
        ∀ offset, PageRequest.pages ⟨size, offset⟩ rows.length = .ok count := by
  refine ⟨fun page size => ⟨PageRequest.exists_ofPage_iff, fun request asked =>
    PageRequest.page_of_ofPage asked⟩, fun request total => PageRequest.pages_eq, ?_⟩
  intro Row rows size positive fits few
  obtain ⟨width, rfl⟩ := Int.eq_ofNat_of_zero_le (Int.le_of_lt positive)
  have natural : 0 ≤ ⌈(rows.length : ℚ) / width⌉ := Int.ceil_nonneg (by positivity)
  obtain ⟨count, counted⟩ := Int.eq_ofNat_of_zero_le natural
  refine ⟨count, _, areCutInto_of_ceil (Int.natCast_pos.mp positive) fits few counted, ?_⟩
  intro offset
  refine Eq.trans (PageRequest.pages_eq ?_ ?_ few) (congrArg Except.ok counted)
  · exact positive
  · exact fits.trans_lt (by decide +kernel)

/-- Seven rows in threes make three pages, and so many rows that they are just counted without error
make the exact number of pages. -/
theorem pages_cut_seven :
    PageRequest.ofPage 3 3 = .ok ⟨3, 6⟩ ∧ PageRequest.page ⟨3, 6⟩ = 3 ∧
      PageRequest.pages ⟨3, 0⟩ (2 ^ 53) = .ok 3002399751580331 ∧
      ∃ request, AreCutInto (List.range 7) 3 3 request := by
  obtain ⟨asked, counted, cut⟩ := pages_cut_rows
  refine ⟨rfl, (asked 3 3).2 _ rfl, ?_, ?_⟩
  · have exactly : ⌈((2 ^ 53 : Nat) : ℚ) / (3 : Int)⌉ = 3002399751580331 := by
      rw [Int.ceil_eq_iff]
      norm_num
    exact (counted ⟨3, 0⟩ (2 ^ 53) (by decide) (by decide +kernel) le_rfl).trans
      (congrArg Except.ok exactly)
  · obtain ⟨count, request, areCut, pages⟩ :=
      cut Nat (List.range 7) 3 (by decide) (by decide) (by decide)
    obtain rfl : 3 = count := Int.ofNat.inj (Except.ok.inj (pages 0))
    exact ⟨request, areCut⟩

end WorkQuery
