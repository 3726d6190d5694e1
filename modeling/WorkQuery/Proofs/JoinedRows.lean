/-
This file proves that the joins add no rows. Rows with distinct numbers leave at most one status,
type and priority for a work package, so every work package has exactly one joined row, the one that
holds what is found for it (`joinedRows_eq`), and the order of the table is kept. If two statuses
had the same number, the work packages with that status would be listed twice.
-/

import WorkQuery.Table.Evaluation
import Mathlib.Data.List.Nodup

namespace WorkQuery

/-- Tables in which no number is used twice, as primary keys are not. -/
structure Tables.HasDistinctIds (tables : Tables) : Prop where
  statuses : (tables.statuses.map Status.id).Nodup
  types : (tables.types.map TypeEntry.id).Nodup
  enumerations : (tables.enumerations.map Enumeration.id).Nodup
  workPackages : (tables.workPackages.map WorkPackage.id).Nodup

namespace Sql

/-! ### Rows that are found -/

/-- A test that only rows with one key pass finds at most one among rows with distinct keys. -/
theorem filter_eq_find? {Row Key : Type} {key : Row → Key} {rows : List Row} {holds : Row → Bool}
    (distinct : (rows.map key).Nodup)
    (sameKey : ∀ row other, holds row = true → holds other = true → key row = key other) :
    rows.filter holds = (rows.find? holds).toList := by
  induction rows with
  | nil => rfl
  | cons row rows inductionHypothesis =>
    rw [List.map_cons, List.nodup_cons] at distinct
    cases found : holds row with
    | false =>
      rw [List.filter_cons_of_neg (Bool.not_eq_true _ ▸ found),
        List.find?_cons_of_neg (Bool.not_eq_true _ ▸ found), inductionHypothesis distinct.2]
    | true =>
      -- A later row that passes the test would share its key with this one.
      have others : rows.filter holds = [] := by
        rw [List.filter_eq_nil_iff]
        intro other member holdsToo
        apply distinct.1
        rw [sameKey row other found holdsToo]
        exact List.mem_map_of_mem member
      rw [List.filter_cons_of_pos found, List.find?_cons_of_pos found, others]
      rfl

/-- A join with a table of which at most one row fits keeps every left row once. -/
theorem leftJoin_eq_map {Left Right : Type} {holds : Left → Right → Bool} {rights : List Right}
    (single : ∀ left, rights.filter (holds left) = (rights.find? (holds left)).toList)
    (lefts : List Left) :
    leftJoin holds lefts rights = lefts.map fun left => (left, rights.find? (holds left)) := by
  unfold leftJoin
  rw [List.map_eq_flatMap]
  congr 1
  funext left
  rw [single left]
  cases rights.find? (holds left) <;> rfl

/-! ### The row of a work package -/

/-- A work package with what the lookup tables hold for it. -/
def joinedRow (tables : Tables) (item : WorkPackage) : JoinedRow where
  item := item
  status := tables.statuses.find? fun status => item.statusId == status.id
  kind := tables.types.find? fun kind => item.typeId == kind.id
  priority := tables.enumerations.find? fun entry =>
    item.priorityId == some entry.id && entry.family == priorityFamily

/-- A field that may hold an integer is the key of the row with that number. -/
theorem holds_key {item : WorkPackage} {field : Field} {value : Option Int}
    (cell : field.cell item = .ofOption .integer value) (lookup : Lookup) (row : lookup.Row) :
    (JoinTest.key field).holds item lookup row = (value == some (lookup.key row)) := by
  rw [JoinTest.holds, cell, Bool.eq_iff_iff, beq_iff_eq, beq_iff_eq]
  cases value with
  | none => exact iff_of_false nofun nofun
  | some value =>
    change some (compare value (lookup.key row)) = some .eq ↔ _
    rw [Option.some_inj, Option.some_inj, Int.compare_eq_eq]

/-- A join by a key finds at most one row among rows with distinct numbers. -/
theorem Join.joined_eq {tables : Tables} {join : Join} {field : Field}
    {value : WorkPackage → Option Int} (isKey : .key field ∈ join.tests)
    (cell : ∀ item, field.cell item = .ofOption .integer (value item))
    (distinct : ((join.lookup.rows tables).map join.lookup.key).Nodup) (rows : List JoinedRow) :
    join.joined tables rows = rows.map fun row =>
      row.withFound join.lookup ((join.lookup.rows tables).find? (join.holds row)) := by
  have single (row : JoinedRow) : (join.lookup.rows tables).filter (join.holds row) =
      ((join.lookup.rows tables).find? (join.holds row)).toList := by
    refine filter_eq_find? distinct fun other another holds holdsToo => ?_
    have isFirst := List.all_eq_true.mp holds _ isKey
    have isSecond := List.all_eq_true.mp holdsToo _ isKey
    rw [holds_key (cell row.item), beq_iff_eq] at isFirst isSecond
    exact Option.some.inj (isFirst.symm.trans isSecond)
  rw [Join.joined, leftJoin_eq_map single, List.map_map]
  rfl

theorem statusJoin_holds (row : JoinedRow) :
    statusJoin.holds row = fun status : Status => row.item.statusId == status.id :=
  funext fun status => (Bool.and_true _).trans
    (@holds_key row.item .statusId (some row.item.statusId) rfl .statuses status)

theorem typeJoin_holds (row : JoinedRow) :
    typeJoin.holds row = fun kind : TypeEntry => row.item.typeId == kind.id :=
  funext fun kind => (Bool.and_true _).trans
    (@holds_key row.item .typeId (some row.item.typeId) rfl .types kind)

theorem priorityJoin_holds (row : JoinedRow) :
    priorityJoin.holds row = fun entry : Enumeration =>
      row.item.priorityId == some entry.id && entry.family == priorityFamily :=
  funext fun entry => congrArg₂ and
    (@holds_key row.item .priorityId row.item.priorityId rfl .enumerations entry)
    (Bool.and_true _)

/-- Every work package has exactly one joined row. -/
theorem joinedRows_eq {tables : Tables} (distinct : tables.HasDistinctIds) :
    joinedRows tables = tables.workPackages.map (joinedRow tables) := by
  have statuses := @Join.joined_eq tables statusJoin .statusId (fun item => some item.statusId)
    List.mem_cons_self (fun _ => rfl) distinct.statuses
  have types := @Join.joined_eq tables typeJoin .typeId (fun item => some item.typeId)
    List.mem_cons_self (fun _ => rfl) distinct.types
  have priorities := @Join.joined_eq tables priorityJoin .priorityId WorkPackage.priorityId
    List.mem_cons_self (fun _ => rfl) distinct.enumerations
  rw [joinedRows, joinAll, joins, List.foldl_cons, List.foldl_cons, List.foldl_cons,
    List.foldl_nil, statuses, types, priorities, List.map_map, List.map_map, List.map_map]
  refine List.map_congr_left fun item _ => ?_
  simp only [Function.comp_apply, statusJoin_holds, typeJoin_holds, priorityJoin_holds]
  rfl

end Sql

end WorkQuery
