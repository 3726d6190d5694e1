/-
This file says what reordering does to columns. The names are gone through one by one, and each
takes the first column of its name that is left, if there is one (`Picks`). So nothing is lost and
nothing doubled: the columns that are taken come first, under the given names as far as there are
columns for them, and the others stay behind them in their order. To reorder by the same names
again changes nothing, and neither does it to reorder by the names that the columns have
(`reorder_permutes`).
-/

import Mathlib.Data.List.Basic
import WorkQuery.Column.Set

namespace WorkQuery.ColumnSet

/-! ### Taking columns by their names -/

theorem takeNamed?_eq_none_iff {name : String} {columns : List Column} :
    takeNamed? name columns = none ↔ ∀ column ∈ columns, column.name ≠ name := by
  induction columns with
  | nil => exact iff_of_true rfl (List.forall_mem_nil _)
  | cons column columns inductionHypothesis =>
    rw [takeNamed?, List.forall_mem_cons]
    split
    · rename_i same
      exact iff_of_false (Option.some_ne_none _) fun different => different.1 same
    · rename_i different
      rw [Option.map_eq_none_iff, inductionHypothesis, and_iff_right different]

theorem takeNamed?_append {name : String} {before : List Column} {found : Column}
    (first : ∀ column ∈ before, column.name ≠ name) (named : found.name = name)
    (after : List Column) :
    takeNamed? name (before ++ found :: after) = some (found, before ++ after) := by
  induction before with
  | nil => rw [List.nil_append, takeNamed?, if_pos named, List.nil_append]
  | cons column before inductionHypothesis =>
    obtain ⟨different, others⟩ := List.forall_mem_cons.mp first
    rw [List.cons_append, takeNamed?, if_neg different, inductionHypothesis others]
    rfl

/-- The first column of a name stands behind columns of other names. -/
theorem exists_first_of_mem {name : String} {columns : List Column}
    (present : ¬∀ column ∈ columns, column.name ≠ name) :
    ∃ before found after, columns = before ++ found :: after ∧ found.name = name ∧
      ∀ column ∈ before, column.name ≠ name := by
  induction columns with
  | nil => exact absurd (List.forall_mem_nil _) present
  | cons column columns inductionHypothesis =>
    by_cases named : column.name = name
    · exact ⟨[], column, columns, rfl, named, List.forall_mem_nil _⟩
    · obtain ⟨before, found, after, rfl, isNamed, first⟩ := inductionHypothesis fun absent =>
        present (List.forall_mem_cons.mpr ⟨named, absent⟩)
      exact ⟨column :: before, found, after, rfl, isNamed, List.forall_mem_cons.mpr ⟨named, first⟩⟩

/-- How names pick columns: each name takes the first column of its name that is left, or none if
there is none. The columns that are taken, and those that are left at the end. -/
inductive Picks : List String → List Column → List Column → List Column → Prop
  | done (columns : List Column) : Picks [] columns [] columns
  | takes {names : List String} {before after chosen left : List Column} {found : Column}
    (first : ∀ column ∈ before, column.name ≠ found.name)
    (others : Picks names (before ++ after) chosen left) :
    Picks (found.name :: names) (before ++ found :: after) (found :: chosen) left
  | misses {name : String} {names : List String} {columns chosen left : List Column}
    (absent : ∀ column ∈ columns, column.name ≠ name) (others : Picks names columns chosen left) :
    Picks (name :: names) columns chosen left

theorem picks_pick (names : List String) (columns : List Column) :
    Picks names columns (pick names columns).1 (pick names columns).2 := by
  induction names generalizing columns with
  | nil => exact .done columns
  | cons name names inductionHypothesis =>
    rw [pick]
    by_cases absent : ∀ column ∈ columns, column.name ≠ name
    · rw [takeNamed?_eq_none_iff.mpr absent]
      exact .misses absent (inductionHypothesis columns)
    · obtain ⟨before, found, after, rfl, rfl, first⟩ := exists_first_of_mem absent
      rw [takeNamed?_append first rfl]
      exact .takes first (inductionHypothesis (before ++ after))

namespace Picks

variable {names : List String} {columns chosen left : List Column}

theorem pick_eq (picks : Picks names columns chosen left) :
    pick names columns = (chosen, left) := by
  induction picks with
  | done columns => rfl
  | takes first _ inductionHypothesis =>
    rw [pick, takeNamed?_append first rfl]
    dsimp only
    rw [inductionHypothesis]
  | misses absent _ inductionHypothesis =>
    rw [pick, takeNamed?_eq_none_iff.mpr absent]
    exact inductionHypothesis

/-- Nothing is lost and nothing doubled. -/
theorem perm (picks : Picks names columns chosen left) : (chosen ++ left).Perm columns := by
  induction picks with
  | done columns => exact .refl columns
  | takes _ _ inductionHypothesis => exact (inductionHypothesis.cons _).trans List.perm_middle.symm
  | misses _ _ inductionHypothesis => exact inductionHypothesis

/-- The columns that are left keep their order. -/
theorem sublist (picks : Picks names columns chosen left) : left.Sublist columns := by
  induction picks with
  | done columns => exact .refl columns
  | takes _ _ inductionHypothesis =>
    exact inductionHypothesis.trans ((List.Sublist.refl _).append (List.sublist_cons_self _ _))
  | misses _ _ inductionHypothesis => exact inductionHypothesis

/-- The columns of one name are taken from the first on. -/
theorem filter_append (picks : Picks names columns chosen left) (name : String) :
    chosen.filter (fun column => column.name == name) ++
        left.filter (fun column => column.name == name) =
      columns.filter fun column => column.name == name := by
  induction picks with
  | done columns => rfl
  | misses _ _ inductionHypothesis => exact inductionHypothesis
  | @takes names before after chosen left found first _ inductionHypothesis =>
    rw [List.filter_append] at inductionHypothesis ⊢
    by_cases named : found.name = name
    · -- No column of the name stands before the one that is taken.
      have none : before.filter (fun column => column.name == name) = [] :=
        List.filter_eq_nil_iff.mpr fun column member same =>
          first column member ((beq_iff_eq.mp same).trans named.symm)
      have isNamed : (found.name == name) = true := beq_iff_eq.mpr named
      rw [none, List.nil_append] at inductionHypothesis ⊢
      simp only [List.filter_cons, isNamed, if_true, List.cons_append, inductionHypothesis]
    · have isOther : (found.name == name) = false := beq_eq_false_iff_ne.mpr named
      simpa only [List.filter_cons, isOther, Bool.false_eq_true, if_false] using
        inductionHypothesis

/-- The same names pick the same columns again. -/
theorem again (picks : Picks names columns chosen left) :
    Picks names (chosen ++ left) chosen left := by
  induction picks with
  | done columns => exact .done columns
  | @takes _ _ _ _ _ found _ _ inductionHypothesis =>
    exact @takes _ [] _ _ _ found (List.forall_mem_nil _) inductionHypothesis
  | misses absent others inductionHypothesis =>
    exact .misses (fun column member => absent column (others.perm.subset member))
      inductionHypothesis

theorem own (columns : List Column) : Picks (columns.map Column.name) columns columns [] := by
  induction columns with
  | nil => exact .done []
  | cons column columns inductionHypothesis =>
    exact @takes _ [] _ _ _ column (List.forall_mem_nil _) inductionHypothesis

end Picks

/-! ### Names that are kept -/

/-- The names of a list that are kept if each is allowed only so often: those before which fewer of
the same stand than are allowed. -/
def keptNames (allowed : String → Nat) (names : List String) : List String :=
  (names.zipIdx.filter fun entry =>
    (names.take entry.2).count entry.1 < allowed entry.1).map Prod.fst

/-- A name is kept if it is allowed, and leaves one less of it to the others. -/
theorem keptNames_cons (allowed : String → Nat) (name : String) (names : List String) :
    keptNames allowed (name :: names) = (if 0 < allowed name then [name] else []) ++
      keptNames (fun other => allowed other - if other = name then 1 else 0) names := by
  have shifted (entry : String × Nat) :
      decide (((name :: names).take (entry.2 + 1)).count entry.1 < allowed entry.1) =
        decide ((names.take entry.2).count entry.1 <
          allowed entry.1 - if entry.1 = name then 1 else 0) := by
    rw [List.take_succ_cons, List.count_cons]
    simp only [beq_iff_eq, eq_comm (a := name), decide_eq_decide]
    split <;> omega
  have others : ((names.zipIdx 1).filter fun entry =>
        ((name :: names).take entry.2).count entry.1 < allowed entry.1).map Prod.fst =
      keptNames (fun other => allowed other - if other = name then 1 else 0) names := by
    rw [List.zipIdx_succ, List.filter_map, List.map_map]
    simp only [Function.comp_def, shifted, keptNames]
  rw [← others, keptNames, List.zipIdx_cons, List.filter_cons]
  by_cases kept : 0 < allowed name <;> simp [kept]

/-- The names of the columns that are taken. -/
theorem Picks.map_name {names : List String} {columns chosen left : List Column}
    (picks : Picks names columns chosen left) :
    chosen.map Column.name =
      keptNames (fun name => (columns.map Column.name).count name) names := by
  induction picks with
  | done columns => rfl
  | @takes names before after chosen left found first _ inductionHypothesis =>
    -- The column that is taken is one less of its name for the names that follow.
    have fewer (other : String) : ((before ++ after).map Column.name).count other =
        ((before ++ found :: after).map Column.name).count other -
          if other = found.name then 1 else 0 := by
      simp only [List.map_append, List.map_cons, List.count_append, List.count_cons, beq_iff_eq,
        eq_comm (a := found.name)]
      split <;> omega
    have present : 0 < ((before ++ found :: after).map Column.name).count found.name :=
      List.count_pos_iff.mpr (List.mem_map_of_mem List.mem_append_cons_self)
    rw [keptNames_cons, if_pos present, List.map_cons, inductionHypothesis, funext fewer]
    rfl
  | @misses name names columns _ _ absent _ inductionHypothesis =>
    have none : (columns.map Column.name).count name = 0 :=
      List.count_eq_zero.mpr fun member =>
        let ⟨column, isColumn, same⟩ := List.mem_map.mp member
        absent column isColumn same
    have same (other : String) : (columns.map Column.name).count other -
        (if other = name then 1 else 0) = (columns.map Column.name).count other := by
      split
      · rename_i named
        rw [named, none]
      · rfl
    rw [keptNames_cons, if_neg (by omega), List.nil_append, inductionHypothesis, funext same]

/-! ### What reordering does -/

/-- What columns are like that names put into a new order: a block of chosen columns in front of
those that are left. -/
structure IsReordering (names : List String) (columns chosen left : List Column) : Prop where
  /-- Nothing is lost and nothing doubled. -/
  permuted : (chosen ++ left).Perm columns
  /-- The chosen columns have the given names, each as far as there are columns for it. -/
  named : chosen.map Column.name =
    keptNames (fun name => (columns.map Column.name).count name) names
  /-- Among the columns of one name, those are chosen that stand first, in their order. -/
  earliest : ∀ name, chosen.filter (fun column => column.name == name) ++
    left.filter (fun column => column.name == name) =
      columns.filter fun column => column.name == name
  /-- The others keep their order. -/
  behind : left.Sublist columns

theorem Picks.reorder_eq {names : List String} {columns chosen left : List Column}
    (picks : Picks names columns chosen left) :
    reorder ⟨columns⟩ names = ⟨chosen ++ left⟩ := by
  rw [reorder, picks.pick_eq]

/-- Reordering puts the columns of the given names in front, and only permutes. A second time it
changes nothing, and by the names that the columns have it never does. -/
theorem reorder_permutes (set : ColumnSet) (names : List String) :
    (∃ chosen left, (set.reorder names).columns = chosen ++ left ∧
      IsReordering names set.columns chosen left) ∧
    (set.reorder names).reorder names = set.reorder names ∧
    set.reorder set.names = set := by
  obtain ⟨columns⟩ := set
  have picks := picks_pick names columns
  refine ⟨⟨_, _, rfl, picks.perm, picks.map_name, picks.filter_append, picks.sublist⟩, ?_, ?_⟩
  · rw [picks.reorder_eq, picks.again.reorder_eq]
  · exact (Picks.own columns).reorder_eq.trans (by rw [List.append_nil])

/-- The columns of one name come in their own order, and a name that no column has, or that is
given too often, takes none. -/
example :
    let first := (Column.ofProperty "subject").withCaption "a"
    let second := (Column.ofProperty "subject").withCaption "b"
    let status := Column.ofProperty "status"
    reorder ⟨[first, status, second]⟩ ["status", "effort", "subject", "status", "subject"] =
      ⟨[status, first, second]⟩ := by
  decide

end WorkQuery.ColumnSet
