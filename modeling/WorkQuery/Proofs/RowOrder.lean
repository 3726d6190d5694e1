/-
This file says how sort keys compare rows. Exchanged rows compare the other way round
(`compareRows_swap`), and rows are tied if each key finds the same in both. Work packages with
different numbers differ in their number, and may differ in nothing else; so only a key on the
number tells all of them apart. An order has such a key if it names the number, or if none of its
properties can be sorted by, as the number is the key in use then (`exists_id_key_iff`).
-/

import Mathlib.Order.Basic
import WorkQuery.Sql.Selection
import WorkQuery.Table.Evaluation

namespace WorkQuery

open Number

/-! ### Stored values -/

theorem Number.Binary64.compare?_swap (left right : Binary64) :
    right.compare? left = (left.compare? right).map Ordering.swap := by
  cases left with
  | notANumber => cases right <;> rfl
  | infinite negative =>
    cases right with
    | notANumber => rfl
    | infinite negative' => cases negative <;> cases negative' <;> rfl
    | finite => cases negative <;> rfl
  | finite negative significand exponent =>
    cases right with
    | notANumber => rfl
    | infinite negative' => cases negative' <;> rfl
    | finite negative' significand' exponent' =>
      unfold compare?
      dsimp only
      generalize ratio? (.finite negative significand exponent) = first,
        ratio? (.finite negative' significand' exponent') = second
      cases first with
      | none => cases second <;> rfl
      | some first =>
        cases second with
        | none => rfl
        | some second => exact congrArg some Std.OrientedOrd.eq_swap

namespace Sql

theorem Stored.compare?_swap (left right : Stored) :
    right.compare? left = (left.compare? right).map Ordering.swap := by
  cases left with
  | integer value =>
    cases right with
    | integer value' => exact congrArg some Std.OrientedOrd.eq_swap
    | real number => rfl
    | text written => rfl
  | real number =>
    cases right with
    | integer value =>
      have twice : Ordering.swap ∘ Ordering.swap = id := funext fun _ => Ordering.swap_swap
      change compare?.compareReal value number =
        ((compare?.compareReal value number).map Ordering.swap).map Ordering.swap
      rw [Option.map_map, twice, Option.map_id, id]
    | real number' => exact number.compare?_swap number'
    | text written => rfl
  | text written =>
    cases right with
    | text written' => exact congrArg some Std.OrientedOrd.eq_swap
    | _ => rfl

theorem compareAscending_swap (left right : Option Stored) :
    compareAscending right left = (compareAscending left right).swap := by
  cases left with
  | none => cases right <;> rfl
  | some value =>
    cases right with
    | none => rfl
    | some value' =>
      change (value'.compare? value).getD .eq = ((value.compare? value').getD .eq).swap
      rw [value.compare?_swap value']
      cases value.compare? value' <;> rfl

theorem eq_of_eq_swap {ordering : Ordering} (same : ordering = ordering.swap) : ordering = .eq := by
  cases ordering with
  | eq => rfl
  | lt | gt => cases same

theorem compareAscending_self (value : Option Stored) : compareAscending value value = .eq :=
  eq_of_eq_swap (compareAscending_swap value value)

/-! ### Sort keys -/

namespace SortKey

theorem compareRows_swap (key : SortKey) (left right : JoinedRow) :
    key.compareRows right left = (key.compareRows left right).swap := by
  obtain ⟨column, direction⟩ := key
  cases direction with
  | ascending => exact compareAscending_swap _ _
  | descending => exact congrArg Ordering.swap (compareAscending_swap _ _)

theorem compareRows_eq_of_cell (key : SortKey) {left right : JoinedRow}
    (same : key.column.cell left = key.column.cell right) : key.compareRows left right = .eq := by
  unfold compareRows
  rw [same, compareAscending_self]
  cases key.direction <;> rfl

/-- By their number, only rows of one and the same number are tied. -/
theorem compareRows_id_iff {key : SortKey} (byId : key.column = .item .id)
    {left right : JoinedRow} :
    key.compareRows left right = .eq ↔ left.item.id = right.item.id := by
  obtain ⟨column, direction⟩ := key
  obtain rfl : column = .item .id := byId
  have compared : compareAscending (storedCell? (Reference.cell left (.item .id)))
      (storedCell? (Reference.cell right (.item .id))) = compare left.item.id right.item.id := rfl
  unfold compareRows
  dsimp only
  rw [compared, ← Std.LawfulEqOrd.compare_eq_iff_eq (α := Int)]
  cases direction with
  | ascending => rfl
  | descending => exact Ordering.swap_eq_eq

end SortKey

theorem compareRows_cons (key : SortKey) (keys : List SortKey) (left right : JoinedRow) :
    compareRows (key :: keys) left right =
      (key.compareRows left right).then (compareRows keys left right) := rfl

/-- Exchanged rows compare the other way round. -/
theorem compareRows_swap (keys : List SortKey) (left right : JoinedRow) :
    compareRows keys right left = (compareRows keys left right).swap := by
  induction keys with
  | nil => rfl
  | cons key keys inductionHypothesis =>
    rw [compareRows_cons, compareRows_cons, Ordering.swap_then, inductionHypothesis,
      key.compareRows_swap]

/-- Rows are tied if each key finds the same in both. -/
theorem compareRows_eq_iff {keys : List SortKey} {left right : JoinedRow} :
    compareRows keys left right = .eq ↔ ∀ key ∈ keys, key.compareRows left right = .eq := by
  induction keys with
  | nil => exact iff_of_true rfl (List.forall_mem_nil _)
  | cons key keys inductionHypothesis =>
    rw [compareRows_cons, Ordering.then_eq_eq, inductionHypothesis, List.forall_mem_cons]

/-- Neither row comes after the other only if they are tied. -/
theorem compareRows_eq_of_ne_gt {keys : List SortKey} {left right : JoinedRow}
    (first : compareRows keys left right ≠ .gt) (second : compareRows keys right left ≠ .gt) :
    compareRows keys left right = .eq := by
  rw [compareRows_swap keys left right] at second
  cases compared : compareRows keys left right with
  | eq => rfl
  | lt => exact absurd (congrArg Ordering.swap compared) second
  | gt => exact absurd compared first

/-- With a key on their number, rows are tied only if they have the same. -/
theorem id_eq_of_compareRows_eq {keys : List SortKey}
    (byId : ∃ key ∈ keys, key.column = .item .id) {left right : JoinedRow}
    (tied : compareRows keys left right = .eq) : left.item.id = right.item.id := by
  obtain ⟨key, member, isId⟩ := byId
  exact (SortKey.compareRows_id_iff isId).mp (compareRows_eq_iff.mp tied key member)

/-- Without a key on their number, rows that differ in nothing else are tied. -/
theorem compareRows_eq_of_cells {keys : List SortKey}
    (anonymous : ¬∃ key ∈ keys, key.column = .item .id) {left right : JoinedRow}
    (same : ∀ column : Reference, column ≠ .item .id → column.cell left = column.cell right) :
    compareRows keys left right = .eq := by
  refine compareRows_eq_iff.mpr fun key member => ?_
  exact key.compareRows_eq_of_cell (same key.column fun byId => anonymous ⟨key, member, byId⟩)

/-- Rows that stand in an order which sort keys allow: none comes after another that it has to
precede. -/
def AreOrdered (keys : List SortKey) (rows : List JoinedRow) : Prop :=
  rows.Pairwise fun left right => compareRows keys left right ≠ .gt

/-! ### Orders -/

/-- The sort keys that are in use for an order: its own, or the one for a query without any. -/
def orderKeys (order : SortOrder) : List SortKey :=
  if (sortKeys order).isEmpty then [standardKey] else sortKeys order

theorem mem_sortKeys {order : SortOrder} {key : SortKey} :
    key ∈ sortKeys order ↔ ∃ criterion ∈ order.criteria,
      sortColumn? criterion.property = some key.column ∧ criterion.direction = key.direction := by
  unfold sortKeys kept
  rw [List.filterMap_map, List.mem_filterMap]
  refine exists_congr fun criterion => and_congr_right fun _ => ?_
  rw [Function.comp_apply, criterionKey]
  cases sortColumn? criterion.property with
  | none => simp [Except.toOption]
  | some column =>
    obtain ⟨column', direction⟩ := key
    simp [Except.toOption]

/-- The number is the only property that is sorted by as a number. -/
theorem sortColumn?_eq_id_iff {property : String} :
    sortColumn? property = some (.item .id) ↔ property = "id" := by
  have only : ∀ entry ∈ sortColumns, entry.2 = .item .id → entry.1 = "id" := by decide
  constructor
  · intro found
    obtain ⟨before, after, split, -⟩ := List.lookup_eq_some_iff.mp found
    refine only (property, .item .id) ?_ rfl
    rw [split]
    exact List.mem_append_right _ List.mem_cons_self
  · rintro rfl
    rfl

end Sql

/-- Whether an order decides between any two work packages: it names their number, or it names no
property that can be sorted by, so that the standard order applies. -/
def SortOrder.IsDecisive (order : SortOrder) : Prop :=
  (∃ criterion ∈ order.criteria, criterion.property = "id") ∨
    ∀ criterion ∈ order.criteria, Sql.sortColumn? criterion.property = none

namespace Sql

theorem sortKeys_eq_nil_iff {order : SortOrder} :
    sortKeys order = [] ↔ ∀ criterion ∈ order.criteria, sortColumn? criterion.property = none := by
  rw [List.eq_nil_iff_forall_not_mem]
  constructor
  · intro none criterion member
    by_contra mapped
    obtain ⟨column, found⟩ := Option.ne_none_iff_exists'.mp mapped
    exact none ⟨column, criterion.direction⟩ (mem_sortKeys.mpr ⟨criterion, member, found, rfl⟩)
  · intro unmapped key member
    obtain ⟨criterion, inside, found, -⟩ := mem_sortKeys.mp member
    rw [unmapped criterion inside] at found
    cases found

/-- The keys of an order are decisive if the number is among them. -/
theorem exists_id_key_iff {order : SortOrder} :
    (∃ key ∈ orderKeys order, key.column = .item .id) ↔ order.IsDecisive := by
  by_cases unmapped : sortKeys order = []
  · have keys : orderKeys order = [standardKey] := by
      rw [orderKeys, unmapped]
      rfl
    rw [keys]
    exact iff_of_true ⟨standardKey, List.mem_cons_self, rfl⟩
      (.inr (sortKeys_eq_nil_iff.mp unmapped))
  · have keys : orderKeys order = sortKeys order := by
      rw [orderKeys, if_neg (mt List.isEmpty_iff.mp unmapped)]
    rw [keys, SortOrder.IsDecisive, ← sortKeys_eq_nil_iff, or_iff_left unmapped]
    constructor
    · rintro ⟨key, member, byId⟩
      obtain ⟨criterion, inside, found, -⟩ := mem_sortKeys.mp member
      exact ⟨criterion, inside, sortColumn?_eq_id_iff.mp (byId ▸ found)⟩
    · rintro ⟨criterion, inside, named⟩
      exact ⟨⟨.item .id, criterion.direction⟩, mem_sortKeys.mpr
        ⟨criterion, inside, sortColumn?_eq_id_iff.mpr named, rfl⟩, rfl⟩

end Sql

end WorkQuery
