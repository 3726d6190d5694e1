/-
This file proves that rows can be sorted. Stored values stand in one line, numbers by their value
and texts behind all of them, and only what is no number has no place in it (`compare?_eq_place`).
By a sort key, rows compare as the places of what they hold in its column, and a cell without a
value stands behind all values. So the comparison by several keys is transitive
(`compareRows_trans`), and sorted rows stand in an order that the keys allow (`pairwise_sortRows`).
-/

import Mathlib.Data.String.Basic
import Mathlib.Data.Sum.Order
import Mathlib.Order.Compare
import WorkQuery.Proofs.RowOrder
import WorkQuery.Proofs.WholeNumber

namespace WorkQuery

open Number

/-! ### Comparisons -/

/-- Places compare like others that stand in the same order. -/
theorem compare_congr {Place Place' : Type} [LinearOrder Place] [LinearOrder Place']
    {left right : Place} {left' right' : Place'} (below : left < right ↔ left' < right')
    (above : right < left ↔ right' < left') : compare left right = compare left' right' := by
  rcases lt_trichotomy left right with less | rfl | greater
  · rw [compare_lt_iff_lt.mpr less, compare_lt_iff_lt.mpr (below.mp less)]
  · have same : left' = right' :=
      le_antisymm (not_lt.mp (above.not.mp (lt_irrefl _))) (not_lt.mp (below.not.mp (lt_irrefl _)))
    rw [compare_eq_iff_eq.mpr rfl, compare_eq_iff_eq.mpr same]
  · rw [compare_gt_iff_gt.mpr greater, compare_gt_iff_gt.mpr (above.mp greater)]

theorem compare_fractions (numerator numerator' : Int) {denominator denominator' : Nat}
    (positive : 0 < denominator) (positive' : 0 < denominator') :
    compare (numerator * denominator') (numerator' * denominator) =
      compare ((numerator : ℚ) / denominator) (numerator' / denominator') := by
  have above : (0 : ℚ) < denominator := Nat.cast_pos.mpr positive
  have above' : (0 : ℚ) < denominator' := Nat.cast_pos.mpr positive'
  refine compare_congr ?_ ?_
  · rw [div_lt_div_iff₀ above above']
    exact_mod_cast Iff.rfl
  · rw [div_lt_div_iff₀ above' above]
    exact_mod_cast Iff.rfl

/-! ### The places of stored values -/

/-- The places of numbers, with the infinite ones at both ends. -/
abbrev NumberPlace : Type := WithBot (WithTop ℚ)

/-- The place of a number that is not infinite. -/
def NumberPlace.finite (value : ℚ) : NumberPlace := ((value : WithTop ℚ) : WithBot (WithTop ℚ))

theorem NumberPlace.compare_finite (left right : ℚ) :
    compare (finite left) (finite right) = compare left right :=
  compare_congr (WithBot.coe_lt_coe.trans WithTop.coe_lt_coe)
    (WithBot.coe_lt_coe.trans WithTop.coe_lt_coe)

/-- The place of a double; what is no number has none. -/
def Number.Binary64.place? : Binary64 → Option NumberPlace
  | .notANumber => none
  | .infinite negative => some (if negative then ⊥ else ⊤)
  | number => number.ratio?.map fun (numerator, denominator) => .finite (numerator / denominator)

theorem Number.Binary64.exists_place?_finite (negative : Bool) (significand : Nat)
    (exponent : Int) :
    ∃ (numerator : Int) (denominator : Nat), 0 < denominator ∧
      ratio? (.finite negative significand exponent) = some (numerator, denominator) ∧
      place? (.finite negative significand exponent) = some (.finite (numerator / denominator)) := by
  obtain ⟨numerator, denominator, positive, -, ratio⟩ :=
    ratio?_finite negative significand exponent
  refine ⟨_, denominator, positive, ratio, ?_⟩
  unfold place?
  dsimp only
  rw [ratio]
  rfl

/-- Doubles compare as their places do. -/
theorem Number.Binary64.compare?_eq_place {left right : Binary64} {place place' : NumberPlace}
    (found : left.place? = some place) (found' : right.place? = some place') :
    left.compare? right = some (compare place place') := by
  have lowest (value : ℚ) : (⊥ : NumberPlace) < .finite value := WithBot.bot_lt_coe _
  have greatest (value : ℚ) : NumberPlace.finite value < ⊤ :=
    WithBot.coe_lt_coe.mpr (WithTop.coe_lt_top value)
  cases left with
  | notANumber => cases found
  | infinite negative =>
    obtain rfl := Option.some.inj found
    cases right with
    | notANumber => cases found'
    | infinite negative' =>
      obtain rfl := Option.some.inj found'
      cases negative <;> cases negative' <;> rfl
    | finite negative' significand exponent =>
      obtain ⟨numerator, denominator, -, -, same⟩ :=
        exists_place?_finite negative' significand exponent
      obtain rfl := Option.some.inj (same.symm.trans found')
      cases negative with
      | false => exact congrArg some (compare_gt_iff_gt.mpr (greatest _)).symm
      | true => exact congrArg some (compare_lt_iff_lt.mpr (lowest _)).symm
  | finite negative significand exponent =>
    obtain ⟨numerator, denominator, positive, ratio, same⟩ :=
      exists_place?_finite negative significand exponent
    obtain rfl := Option.some.inj (same.symm.trans found)
    cases right with
    | notANumber => cases found'
    | infinite negative' =>
      obtain rfl := Option.some.inj found'
      cases negative' with
      | false => exact congrArg some (compare_lt_iff_lt.mpr (greatest _)).symm
      | true => exact congrArg some (compare_gt_iff_gt.mpr (lowest _)).symm
    | finite negative' significand' exponent' =>
      obtain ⟨numerator', denominator', positive', ratio', same'⟩ :=
        exists_place?_finite negative' significand' exponent'
      obtain rfl := Option.some.inj (same'.symm.trans found')
      unfold compare?
      dsimp only
      rw [ratio, ratio']
      dsimp only
      rw [NumberPlace.compare_finite, compare_fractions _ _ positive positive']

namespace Sql

/-- The places of stored values: first those of numbers, then texts. -/
abbrev StoredPlace : Type := Lex (NumberPlace ⊕ String)

/-- The place of a stored value; what is no number has none. -/
def Stored.place? : Stored → Option StoredPlace
  | integer value => some (toLex (.inl (.finite value)))
  | real number => number.place?.map fun place => toLex (.inl place)
  | text written => some (toLex (.inr written))

theorem compare_inl (left right : NumberPlace) :
    compare (toLex (.inl left) : StoredPlace) (toLex (.inl right)) = compare left right :=
  compare_congr Sum.Lex.inl_lt_inl_iff Sum.Lex.inl_lt_inl_iff

/-- An integer compares with a double as the double of a fraction would. -/
theorem Stored.compareReal_eq_place (value : Int) {number : Binary64} {place : NumberPlace}
    (found : number.place? = some place) :
    compare?.compareReal value number = some (compare (NumberPlace.finite value) place) := by
  cases number with
  | notANumber => cases found
  | infinite negative =>
    obtain rfl := Option.some.inj found
    cases negative with
    | false =>
      exact congrArg some (compare_lt_iff_lt.mpr
        (WithBot.coe_lt_coe.mpr (WithTop.coe_lt_top (value : ℚ)))).symm
    | true => exact congrArg some (compare_gt_iff_gt.mpr (WithBot.bot_lt_coe _)).symm
  | finite negative significand exponent =>
    obtain ⟨numerator, denominator, positive, ratio, same⟩ :=
      Binary64.exists_place?_finite negative significand exponent
    obtain rfl := Option.some.inj (same.symm.trans found)
    have fractions := compare_fractions value numerator Nat.one_pos positive
    rw [Nat.cast_one, Nat.cast_one, mul_one, div_one] at fractions
    unfold compare?.compareReal
    dsimp only
    rw [ratio, Option.map_some, NumberPlace.compare_finite, ← fractions]

/-- Stored values compare as their places do. -/
theorem Stored.compare?_eq_place {left right : Stored} {place place' : StoredPlace}
    (found : left.place? = some place) (found' : right.place? = some place') :
    left.compare? right = some (compare place place') := by
  cases left with
  | integer value =>
    obtain rfl := Option.some.inj found
    cases right with
    | integer value' =>
      obtain rfl := Option.some.inj found'
      have fractions := compare_fractions value value' Nat.one_pos Nat.one_pos
      rw [Nat.cast_one, Nat.cast_one, mul_one, mul_one, div_one, div_one] at fractions
      rw [compare_inl, NumberPlace.compare_finite, ← fractions]
      rfl
    | real number =>
      obtain ⟨place', placed', rfl⟩ := Option.map_eq_some_iff.mp found'
      rw [compare_inl]
      exact compareReal_eq_place value placed'
    | text written =>
      obtain rfl := Option.some.inj found'
      exact congrArg some (compare_lt_iff_lt.mpr (Sum.Lex.inl_lt_inr _ _)).symm
  | real number =>
    obtain ⟨place, placed, rfl⟩ := Option.map_eq_some_iff.mp found
    cases right with
    | integer value =>
      obtain rfl := Option.some.inj found'
      rw [compare?_swap (.integer value) (.real number), compare_inl]
      change (compare?.compareReal value number).map Ordering.swap = _
      rw [compareReal_eq_place value placed, Option.map_some]
      exact congrArg some Std.OrientedOrd.eq_swap.symm
    | real number' =>
      obtain ⟨place', placed', rfl⟩ := Option.map_eq_some_iff.mp found'
      rw [compare_inl]
      exact Binary64.compare?_eq_place placed placed'
    | text written =>
      obtain rfl := Option.some.inj found'
      exact congrArg some (compare_lt_iff_lt.mpr (Sum.Lex.inl_lt_inr _ _)).symm
  | text written =>
    obtain rfl := Option.some.inj found
    cases right with
    | integer value =>
      obtain rfl := Option.some.inj found'
      exact congrArg some (compare_gt_iff_gt.mpr (Sum.Lex.inl_lt_inr _ _)).symm
    | real number =>
      obtain ⟨place', -, rfl⟩ := Option.map_eq_some_iff.mp found'
      exact congrArg some (compare_gt_iff_gt.mpr (Sum.Lex.inl_lt_inr _ _)).symm
    | text written' =>
      obtain rfl := Option.some.inj found'
      exact congrArg some (compare_congr Sum.Lex.inr_lt_inr_iff.symm Sum.Lex.inr_lt_inr_iff.symm)

/-! ### The places of rows -/

/-- Whether all that a row holds has a place: nothing in it is no number. -/
def JoinedRow.IsPlaced (row : JoinedRow) : Prop :=
  ∀ column : Reference, storedCell? (column.cell row) ≠ some (.real .notANumber)

/-- The place of what a cell holds, behind all others if it holds nothing. -/
def cellPlace (stored : Option Stored) : WithTop StoredPlace :=
  stored.bind Stored.place?

theorem exists_place? {stored : Stored} (isPlaced : stored ≠ .real .notANumber) :
    ∃ place, stored.place? = some place := by
  cases stored with
  | integer | text => exact ⟨_, rfl⟩
  | real number =>
    cases number with
    | notANumber => exact absurd rfl isPlaced
    | infinite => exact ⟨_, rfl⟩
    | finite negative significand exponent =>
      obtain ⟨_, _, -, -, same⟩ := Binary64.exists_place?_finite negative significand exponent
      exact ⟨_, Option.map_eq_some_iff.mpr ⟨_, same, rfl⟩⟩

/-- Cells compare as their places do. -/
theorem compareAscending_eq_place {left right : Option Stored}
    (isPlaced : left ≠ some (.real .notANumber)) (isPlaced' : right ≠ some (.real .notANumber)) :
    compareAscending left right = compare (cellPlace left) (cellPlace right) := by
  have empty : cellPlace none = ⊤ := rfl
  have full {stored : Stored} (isPlaced : some stored ≠ some (.real .notANumber)) :
      ∃ place : StoredPlace, stored.place? = some place ∧ cellPlace (some stored) = place := by
    obtain ⟨place, found⟩ := exists_place? fun same => isPlaced (congrArg some same)
    exact ⟨place, found, found⟩
  cases left with
  | none =>
    cases right with
    | none => exact (compare_eq_iff_eq.mpr rfl).symm
    | some stored =>
      obtain ⟨place, -, same⟩ := full isPlaced'
      rw [empty, same]
      exact (compare_gt_iff_gt.mpr (WithTop.coe_lt_top place)).symm
  | some stored =>
    obtain ⟨place, found, same⟩ := full isPlaced
    cases right with
    | none =>
      rw [empty, same]
      exact (compare_lt_iff_lt.mpr (WithTop.coe_lt_top place)).symm
    | some stored' =>
      obtain ⟨place', found', same'⟩ := full isPlaced'
      rw [same, same', compareAscending, Stored.compare?_eq_place found found', Option.getD_some]
      exact compare_congr WithTop.coe_lt_coe.symm WithTop.coe_lt_coe.symm

/-! ### Sort keys -/

/-- By a sort key, rows compare as places in some line. -/
theorem SortKey.exists_places (key : SortKey) :
    ∃ (Place : Type) (_ : LinearOrder Place) (place : JoinedRow → Place),
      ∀ left right : JoinedRow, left.IsPlaced → right.IsPlaced →
        key.compareRows left right = compare (place left) (place right) := by
  obtain ⟨column, direction⟩ := key
  let place (row : JoinedRow) : WithTop StoredPlace := cellPlace (storedCell? (column.cell row))
  have ascending (left right : JoinedRow) (isPlaced : left.IsPlaced) (isPlaced' : right.IsPlaced) :
      compareAscending (storedCell? (column.cell left)) (storedCell? (column.cell right)) =
        compare (place left) (place right) :=
    compareAscending_eq_place (isPlaced column) (isPlaced' column)
  cases direction with
  | ascending => exact ⟨_, inferInstance, place, ascending⟩
  | descending =>
    refine ⟨(WithTop StoredPlace)ᵒᵈ, inferInstance, OrderDual.toDual ∘ place, ?_⟩
    intro left right isPlaced isPlaced'
    change Ordering.swap (compareAscending _ _) = _
    rw [ascending left right isPlaced isPlaced', ← Std.OrientedOrd.eq_swap]
    exact compare_congr OrderDual.toDual_lt_toDual.symm OrderDual.toDual_lt_toDual.symm

/-- One more key in front keeps a comparison transitive. -/
theorem then_ne_gt_trans {Place : Type} [LinearOrder Place] {left middle right : Place}
    {first second third : Ordering} (precedes : (compare left middle).then first ≠ .gt)
    (precedes' : (compare middle right).then second ≠ .gt)
    (others : first ≠ .gt → second ≠ .gt → third ≠ .gt) :
    (compare left right).then third ≠ .gt := by
  rw [ne_eq, Ordering.then_eq_gt, compare_gt_iff_gt, compare_eq_iff_eq, not_or, not_lt] at *
  obtain ⟨below, tied⟩ := precedes
  obtain ⟨below', tied'⟩ := precedes'
  refine ⟨below.trans below', ?_⟩
  rintro ⟨rfl, greater⟩
  have same : left = middle := le_antisymm below below'
  exact others (fun beyond => tied ⟨same, beyond⟩) (fun beyond => tied' ⟨same.symm, beyond⟩) greater

theorem compareRows_trans {keys : List SortKey} {left middle right : JoinedRow}
    (isPlaced : left.IsPlaced) (isPlaced' : middle.IsPlaced) (isPlaced'' : right.IsPlaced)
    (precedes : compareRows keys left middle ≠ .gt)
    (precedes' : compareRows keys middle right ≠ .gt) : compareRows keys left right ≠ .gt := by
  induction keys with
  | nil => exact nofun
  | cons key keys inductionHypothesis =>
    obtain ⟨Place, linear, place, compared⟩ := key.exists_places
    rw [compareRows_cons, compared _ _ isPlaced isPlaced'] at precedes
    rw [compareRows_cons, compared _ _ isPlaced' isPlaced''] at precedes'
    rw [compareRows_cons, compared _ _ isPlaced isPlaced'']
    exact then_ne_gt_trans precedes precedes' inductionHypothesis

/-! ### Sorted rows -/

/-- Sorted rows stand in an order that the sort keys allow. -/
theorem areOrdered_sortRows (order : SortOrder) {rows : List JoinedRow}
    (isPlaced : ∀ row ∈ rows, row.IsPlaced) :
    AreOrdered (orderKeys order) (sortRows (sortKeys order) rows) := by
  lift rows to List {row : JoinedRow // row.IsPlaced} using isPlaced
  let precedes (left right : {row : JoinedRow // row.IsPlaced}) : Bool :=
    compareRows (orderKeys order) left right != .gt
  have sorted : (rows.mergeSort precedes).map Subtype.val =
      sortRows (sortKeys order) (rows.map Subtype.val) := List.map_mergeSort fun _ _ _ _ => rfl
  rw [← sorted]
  refine List.pairwise_map.mpr ((List.pairwise_mergeSort ?_ ?_ rows).imp ?_)
  · intro left middle right first second
    rw [bne_iff_ne] at *
    exact compareRows_trans left.2 middle.2 right.2 first second
  · intro left right
    rw [Bool.or_eq_true, bne_iff_ne, bne_iff_ne, compareRows_swap]
    generalize compareRows (orderKeys order) right left = ordering
    cases ordering <;> decide
  · exact bne_iff_ne.mp

/-- Only the two fields for hours of a work package could hold what is no number. -/
theorem isPlaced_of_hours {row : JoinedRow} (estimated : row.item.estimatedHours ≠ some .notANumber)
    (remaining : row.item.remainingHours ≠ some .notANumber) : row.IsPlaced := by
  have hours {number? : Option Binary64} (isNumber : number? ≠ some .notANumber) :
      storedCell? (.ofOption .real number?) ≠ some (.real .notANumber) := by
    cases number? with
    | none => exact nofun
    | some number =>
      intro same
      injection same with same
      injection same with same
      exact isNumber (congrArg some same)
  have others {Content : Type} {make : Content → Cell} (content? : Option Content)
      (isOther : ∀ content number, make content ≠ .real number) :
      storedCell? (.ofOption make content?) ≠ some (.real .notANumber) := by
    cases content? with
    | none => exact nofun
    | some content =>
      intro same
      cases made : make content with
      | real number => exact isOther content number made
      | _ => simp [Cell.ofOption, made, storedCell?] at same
  intro column
  cases column with
  | item field =>
    cases field with
    | estimatedHours => exact hours estimated
    | remainingHours => exact hours remaining
    | id | subject | projectId | typeId | statusId | doneRatio | lockVersion | createdAt
    | updatedAt | scheduleManually => exact nofun
    | _ => exact others _ nofun
  | _ => exact others _ nofun

end Sql

end WorkQuery
