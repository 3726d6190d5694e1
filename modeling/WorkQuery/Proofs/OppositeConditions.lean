/-
This file says how operators that ask opposite questions divide the rows. Most conditions have an
opposite, whose truth is the negation of their own, and the negation of an unknown truth is unknown
(`holds?_opposite`). A comparison with literals is unknown for rows without a value in the column,
and for no others, since no literal is missing or is no number (`isSome_holds?_iff`). So of two
operators with opposite conditions exactly one selects a row with a value, and none selects a row
without one (`opposites_divide_rows`).
-/

import WorkQuery.Proofs.SelectedPage
import WorkQuery.Proofs.StoredOrder

namespace WorkQuery

open Calendar Number

/-! ### Literals are values -/

namespace Number.Binary64

theorem ofDecimal_ne_notANumber (negative : Bool) (digits : Nat) (exponent : Int) :
    ofDecimal negative digits exponent ≠ .notANumber := by
  unfold ofDecimal
  dsimp only
  split
  · exact nofun
  · split
    · exact nofun
    · split
      · exact nofun
      · split <;> exact ofRatio_ne_notANumber _ _ _

end Number.Binary64

namespace Sql

/-- Whether a stored value compares with all others: it is not what is no number. -/
def Stored.IsComparable (stored : Stored) : Prop :=
  stored ≠ .real .notANumber

theorem Stored.isComparable_real {number : Binary64} (isNumber : number ≠ .notANumber) :
    (real number).IsComparable := by
  rintro ⟨⟩
  exact isNumber rfl

theorem Stored.isComparable_ofInteger (value : Int) : (ofInteger value).IsComparable := by
  unfold ofInteger
  split
  · exact nofun
  · exact isComparable_real (Binary64.ofRatio_ne_notANumber _ _ _)

theorem Stored.isComparable_of_numberOfText? {written : String} {stored : Stored}
    (found : numberOfText? written = some stored) : stored.IsComparable := by
  unfold numberOfText? at found
  generalize splitSign (Text.trim isBlank written.toList) = parts at found
  obtain ⟨⟨magnitude, exponent⟩, -, found⟩ := Option.bind_eq_some_iff.mp found
  dsimp only at found
  split at found
  · obtain rfl := Option.some.inj found
    exact isComparable_ofInteger _
  · obtain rfl := Option.some.inj found
    exact isComparable_real (Binary64.ofDecimal_ne_notANumber _ _ _)

theorem Stored.isComparable_asText (stored : Stored) : stored.asText.IsComparable := by
  cases stored <;> exact nofun

theorem Stored.isComparable_asNumber {stored : Stored} (comparable : stored.IsComparable) :
    stored.asNumber.IsComparable := by
  cases stored with
  | integer | real => exact comparable
  | text written =>
    change ((numberOfText? written).getD (.text written)).IsComparable
    cases found : numberOfText? written with
    | none => exact nofun
    | some stored => exact isComparable_of_numberOfText? found

theorem isComparable_of_numberLiteral? {number : Binary64} {literal : Literal}
    (found : numberLiteral? number = some literal) : (storedLiteral literal).IsComparable := by
  unfold numberLiteral? at found
  split at found
  · rename_i finite
    split at found
    · obtain rfl := Option.some.inj found
      exact Stored.isComparable_ofInteger _
    · obtain rfl := Option.some.inj found
      refine Stored.isComparable_real ?_
      rintro rfl
      cases finite
  · cases found

theorem isComparable_storedLiteral {user : Option Int} {value : FilterValue} {literal : Literal}
    (member : literal ∈ literals user value) : (storedLiteral literal).IsComparable := by
  have integers {ids : List Int} (member : literal ∈ ids.map .integer) :
      (storedLiteral literal).IsComparable := by
    obtain ⟨id, -, rfl⟩ := List.mem_map.mp member
    exact Stored.isComparable_ofInteger id
  cases value with
  | id value =>
    have single : literal ∈ [value].map .integer := member
    exact integers single
  | ids values => exact integers member
  | currentUser => exact integers (by rwa [← Option.toList_map])
  | number number => exact isComparable_of_numberLiteral? (Option.mem_toList.mp member)
  | text value | truth value | date value =>
    obtain rfl := List.mem_singleton.mp member
    exact nofun
  | texts values =>
    obtain ⟨text, -, rfl⟩ := List.mem_map.mp member
    exact nofun
  | dates first last =>
    obtain rfl | rfl := List.mem_pair.mp member <;> exact nofun
  | absent => cases member

/-- Whatever the column is, the literals of a filter value compare with all that is stored. -/
theorem isComparable_literalFor {user : Option Int} {value : FilterValue} {literal : Literal}
    (member : literal ∈ literals user value) (column : Reference) :
    (literalFor column literal).IsComparable := by
  unfold literalFor
  split
  · exact Stored.isComparable_asText _
  · exact Stored.isComparable_asNumber (isComparable_storedLiteral member)

/-! ### Opposite conditions -/

/-- The comparison that holds where another one fails. -/
def Comparison.opposite : Comparison → Comparison
  | equal => unequal
  | unequal => equal
  | less => greaterOrEqual
  | lessOrEqual => greater
  | greater => lessOrEqual
  | greaterOrEqual => less

theorem Comparison.accepts_opposite (comparison : Comparison) (ordering : Ordering) :
    comparison.opposite.accepts ordering = !comparison.accepts ordering := by
  cases comparison <;> cases ordering <;> rfl

/-- The condition with the opposite meaning, for the conditions that operators have in pairs. -/
def Condition.opposite? : Condition → Option Condition
  | compare column comparison literal => some (.compare column comparison.opposite literal)
  | member column negated literals => some (.member column (!negated) literals)
  | null column negated => some (.null column (!negated))
  | _ => none

theorem compareCell_opposite (row : JoinedRow) (column : Reference) (comparison : Comparison)
    (literal : Stored) :
    compareCell row column comparison.opposite literal =
      (compareCell row column comparison literal).map not := by
  unfold compareCell
  cases storedCell? (column.cell row) with
  | none => rfl
  | some stored =>
    cases compared : stored.compare? literal with
    | none => simp [compared]
    | some ordering => simp [compared, comparison.accepts_opposite]

/-- The truth of the opposite of a condition is the negation of its truth, and unknown with it. -/
theorem holds?_opposite {condition other : Condition} (opposite : condition.opposite? = some other)
    (today : Date) (row : JoinedRow) :
    other.holds? today row = (condition.holds? today row).map not := by
  cases condition with
  | compare column comparison literal =>
    obtain rfl := Option.some.inj opposite
    exact compareCell_opposite row column comparison _
  | member column negated literals =>
    obtain rfl := Option.some.inj opposite
    cases negated with
    | false => rfl
    | true =>
      have twice : not ∘ not = id := funext Bool.not_not
      change _ = Option.map not (Option.map not _)
      rw [Option.map_map, twice, Option.map_id]
      rfl
  | null column negated =>
    obtain rfl := Option.some.inj opposite
    have flipped (empty : Bool) : (empty != !negated) = !(empty != negated) := by
      cases empty <;> cases negated <;> rfl
    exact congrArg some (flipped _)
  | _ => cases opposite

theorem selects_single (today : Date) (condition : Condition) (row : JoinedRow) :
    selects today [condition] row = (condition.holds? today row == some true) := by
  rw [selects, List.all_cons, List.all_nil, Bool.and_true]

/-- Whether a value is absent is known for every row. -/
theorem selects_null (today : Date) (column : Reference) (negated : Bool) (row : JoinedRow) :
    selects today [.null column negated] row =
      ((storedCell? (column.cell row)).isNone != negated) := by
  rw [selects_single]
  change (some ((storedCell? (column.cell row)).isNone != negated) == some true) = _
  rw [Option.some_beq_some, beq_true]

/-! ### Rows with and without a value -/

theorem isSome_compareCell_iff {row : JoinedRow} (isPlaced : row.IsPlaced) (column : Reference)
    (comparison : Comparison) {literal : Stored} (comparable : literal.IsComparable) :
    (compareCell row column comparison literal).isSome ↔
      (storedCell? (column.cell row)).isSome := by
  unfold compareCell
  cases found : storedCell? (column.cell row) with
  | none => rfl
  | some stored =>
    obtain ⟨place, placed⟩ := exists_place? fun same => isPlaced column (found.trans (same ▸ rfl))
    obtain ⟨place', placed'⟩ := exists_place? comparable
    simp [Stored.compare?_eq_place placed placed']

/-- A disjunction of truths of which all or none are known is known with them. -/
theorem isSome_foldr_eitherHolds {truth : Literal → Option Bool} {known : Prop}
    {literals : List Literal} (nonempty : literals ≠ [])
    (isKnown : ∀ literal ∈ literals, (truth literal).isSome ↔ known) :
    (literals.foldr (fun literal rest => eitherHolds (truth literal) rest) (some false)).isSome ↔
      known := by
  induction literals with
  | nil => exact absurd rfl nonempty
  | cons first rest inductionHypothesis =>
    have head := isKnown first List.mem_cons_self
    rw [List.foldr_cons]
    rcases eq_or_ne rest [] with rfl | more
    · rw [← head, List.foldr_nil]
      cases truth first with
      | none => rfl
      | some value => cases value <;> rfl
    · have tail := inductionHypothesis more fun literal member =>
        isKnown literal (List.mem_cons_of_mem _ member)
      by_cases isTrue : known
      · obtain ⟨value, found⟩ := Option.isSome_iff_exists.mp (head.mpr isTrue)
        obtain ⟨value', found'⟩ := Option.isSome_iff_exists.mp (tail.mpr isTrue)
        rw [found, found', eitherHolds_some]
        exact iff_of_true rfl isTrue
      · rw [Option.not_isSome_iff_eq_none.mp (mt head.mp isTrue),
          Option.not_isSome_iff_eq_none.mp (mt tail.mp isTrue)]
        exact iff_of_false Bool.false_ne_true isTrue

/-- The conditions that compare a column with literals. -/
inductive Condition.Compares (column : Reference) : Condition → Prop
  | single (comparison : Comparison) {literal : Literal}
      (comparable : (literalFor column literal).IsComparable) :
      Compares column (.compare column comparison literal)
  | several (negated : Bool) {literals : List Literal} (nonempty : literals ≠ [])
      (comparable : ∀ literal ∈ literals, (literalFor column literal).IsComparable) :
      Compares column (.member column negated literals)

/-- The truth of a comparison with literals is known just for the rows with a value. -/
theorem isSome_holds?_iff {column : Reference} {condition : Condition}
    (compares : condition.Compares column) (today : Date) {row : JoinedRow}
    (isPlaced : row.IsPlaced) :
    (condition.holds? today row).isSome ↔ (storedCell? (column.cell row)).isSome := by
  cases compares with
  | single comparison comparable =>
    exact isSome_compareCell_iff isPlaced column comparison comparable
  | several negated nonempty comparable =>
    have found := isSome_foldr_eitherHolds nonempty fun literal member =>
      isSome_compareCell_iff isPlaced column .equal (comparable literal member)
    cases negated with
    | false => exact found
    | true =>
      rw [← found]
      exact Bool.eq_iff_iff.mp Option.isSome_map

/-- Two conditions divide the rows with a value in a column: exactly one of the conditions selects
each of them, and neither selects a row without a value. -/
structure Divide (column : Reference) (today : Date) (condition other : Condition) : Prop where
  filled : ∀ row : JoinedRow, row.IsPlaced → storedCell? (column.cell row) ≠ none →
    selects today [other] row = !selects today [condition] row
  empty : ∀ row : JoinedRow, row.IsPlaced → storedCell? (column.cell row) = none →
    selects today [condition] row = false ∧ selects today [other] row = false

theorem divide_opposite {column : Reference} {condition other : Condition}
    (compares : condition.Compares column) (opposite : condition.opposite? = some other)
    (today : Date) : Divide column today condition other := by
  constructor
  · intro row isPlaced filled
    have known :=
      (isSome_holds?_iff compares today isPlaced).mpr (Option.isSome_iff_ne_none.mpr filled)
    obtain ⟨truth, found⟩ := Option.isSome_iff_exists.mp known
    rw [selects_single, selects_single, holds?_opposite opposite, found]
    cases truth <;> rfl
  · intro row isPlaced empty
    have unknown : condition.holds? today row = none := by
      rw [← Option.not_isSome_iff_eq_none, isSome_holds?_iff compares today isPlaced, empty]
      exact Bool.false_ne_true
    rw [selects_single, selects_single, holds?_opposite opposite, unknown]
    exact ⟨rfl, rfl⟩

end Sql

/-! ### Opposite operators -/

/-- Filters that ask opposite questions about a property. Whoever asks for the requester by the
operator of its own asks the opposite of an inequality with the requester. -/
inductive AreOpposite (property : String) : Filter → Filter → Prop
  | equality (value : FilterValue) :
      AreOpposite property (.equals property value) (.notEquals property value)
  | requester :
      AreOpposite property (.currentUser property) (.notEquals property .currentUser)
  | greater (value : FilterValue) :
      AreOpposite property ⟨property, .fixed .greaterThan, value⟩
        ⟨property, .fixed .lessOrEqual, value⟩
  | less (value : FilterValue) :
      AreOpposite property ⟨property, .fixed .lessThan, value⟩
        ⟨property, .fixed .greaterOrEqual, value⟩

namespace Sql

/-- What becomes of opposite filters for a requester: opposite conditions, no conditions, or, where
equality with the requester is asked for and nobody is the requester, a condition that holds nowhere
and none. -/
inductive OppositeOutcome (column : Reference) (user : Option Int) (value : FilterValue) :
    Option Condition → Option Condition → Prop
  | both {condition other : Condition} (compares : condition.Compares column)
      (opposite : condition.opposite? = some other) :
      OppositeOutcome column user value (some condition) (some other)
  | neither : OppositeOutcome column user value none none
  | nobody (anonymous : user = none) (isPlaceholder : value = .currentUser) :
      OppositeOutcome column user value (some .never) none

theorem comparison?_opposite (column : Reference) (comparison : Comparison) (value : FilterValue)
    (user : Option Int) :
    OppositeOutcome column user value (comparison? column comparison value user)
      (comparison? column comparison.opposite value user) := by
  unfold comparison?
  cases found : literals user value with
  | nil => exact .neither
  | cons literal rest =>
    refine .both (.single comparison ?_) rfl
    exact isComparable_literalFor (found ▸ List.mem_cons_self) column

theorem membership?_opposite (column : Reference) (value : FilterValue) (user : Option Int) :
    OppositeOutcome column user value (membership? column false value user)
      (membership? column true value user) := by
  have comparable (literal : Literal) (member : literal ∈ literals user value) :=
    isComparable_literalFor member column
  unfold membership?
  split
  · rename_i nobody
    exact .nobody nobody.2 nobody.1
  · cases found : literals user value with
    | nil => exact .neither
    | cons first rest =>
      cases rest with
      | nil => exact .both (.single .equal (comparable first (found ▸ List.mem_cons_self))) rfl
      | cons second rest =>
        refine .both (.several false (List.cons_ne_nil _ _) fun literal member => ?_) rfl
        exact comparable literal (found ▸ member)

/-- Opposite filters on a property with a column become opposite conditions, unless they ask for the
requester and there is none. -/
theorem outcome_of_areOpposite {property : String} {column : Reference}
    (mapped : filterColumn? property = some column) {first second : Filter}
    (opposite : AreOpposite property first second) (user : Option Int) :
    OppositeOutcome column user second.value (condition? user first) (condition? user second) := by
  have required {kind kind' : FixedKind} {value : FilterValue} (needs : kind.requiresValue = true)
      (needs' : kind'.requiresValue = true)
      (outcome : OppositeOutcome column user value (fixedCondition? column value user kind)
        (fixedCondition? column value user kind')) :
      OppositeOutcome column user value (condition? user ⟨property, .fixed kind, value⟩)
        (condition? user ⟨property, .fixed kind', value⟩) := by
    rw [condition?_of_mapped mapped, condition?_of_mapped mapped, Operator.requiresValue,
      Operator.requiresValue, needs, needs', Bool.not_true, Bool.false_or]
    split
    · exact outcome
    · exact .neither
  cases opposite with
  | equality value => exact required rfl rfl (membership?_opposite column value user)
  | greater value => exact required rfl rfl (comparison?_opposite column .greater value user)
  | less value => exact required rfl rfl (comparison?_opposite column .less value user)
  | requester =>
    rw [Filter.currentUser, Filter.notEquals, condition?_of_mapped mapped,
      condition?_of_mapped mapped]
    cases user with
    | none => exact .nobody rfl rfl
    | some id =>
      have member : .integer id ∈ literals (some id) .currentUser := List.mem_cons_self
      exact .both (.single .equal (isComparable_literalFor member column)) rfl

/-! ### Rows that lack a lookup row -/

/-- Whether a column belongs to a lookup row that is not joined to the row. -/
def Reference.IsUnjoined (row : JoinedRow) : Reference → Prop
  | statusName | statusIsClosed | statusPosition => row.status = none
  | typeName | typePosition => row.kind = none
  | priorityName | priorityPosition => row.priority = none
  | item _ => False

theorem storedCell?_of_isUnjoined {row : JoinedRow} {column : Reference}
    (unjoined : column.IsUnjoined row) : storedCell? (column.cell row) = none := by
  cases column with
  | item field => exact unjoined.elim
  | statusName | statusIsClosed | statusPosition =>
    unfold Reference.cell
    rw [show row.status = none from unjoined]
    rfl
  | typeName | typePosition =>
    unfold Reference.cell
    rw [show row.kind = none from unjoined]
    rfl
  | priorityName | priorityPosition =>
    unfold Reference.cell
    rw [show row.priority = none from unjoined]
    rfl

end Sql

/-! ### Divided rows -/

open Sql

/-- On every property with a column, opposite filters divide the rows with a value, and a row
without one, as where a lookup row is missing, is selected by none of them; both or neither become
conditions, except that for nobody equality with the requester holds nowhere and inequality is left
out. Absence and presence of a value divide all rows. -/
theorem opposites_divide_rows {property : String} {column : Reference}
    (mapped : filterColumn? property = some column) (today : Date) :
    (∀ first second, AreOpposite property first second → ∀ user,
      (∀ condition other, condition? user first = some condition →
        condition? user second = some other → Divide column today condition other) ∧
      ((condition? user first).isSome = (condition? user second).isSome ∨
        user = none ∧ second.value = .currentUser ∧ condition? user first = some .never ∧
          condition? user second = none)) ∧
    (∀ row : JoinedRow, column.IsUnjoined row → storedCell? (column.cell row) = none) ∧
    (∀ value value' user, ∃ condition other,
      condition? user ⟨property, .fixed .isNull, value⟩ = some condition ∧
      condition? user ⟨property, .fixed .isNotNull, value'⟩ = some other ∧
      ∀ row, (selects today [condition] row = true ↔ storedCell? (column.cell row) = none) ∧
        selects today [other] row = !selects today [condition] row) ∧
    condition? none (.equals property .currentUser) = some .never ∧
    condition? none (.currentUser property) = some .never ∧
    condition? none (.notEquals property .currentUser) = none ∧
    ∀ row, selects today [.never] row = false := by
  refine ⟨fun first second opposite user => ?_, fun row => storedCell?_of_isUnjoined, ?_, ?_⟩
  · have outcome := outcome_of_areOpposite mapped opposite user
    generalize condition? user first = condition?, condition? user second = other? at outcome
    cases outcome with
    | both compares opposite =>
      refine ⟨?_, .inl rfl⟩
      rintro _ _ ⟨⟩ ⟨⟩
      exact divide_opposite compares opposite today
    | neither =>
      refine ⟨?_, .inl rfl⟩
      rintro _ _ ⟨⟩
    | nobody anonymous isPlaceholder =>
      refine ⟨?_, .inr ⟨anonymous, isPlaceholder, rfl, rfl⟩⟩
      rintro _ _ - ⟨⟩
  · intro value value' user
    refine ⟨.null column false, .null column true, condition?_of_taken mapped rfl user,
      condition?_of_taken mapped rfl user, fun row => ?_⟩
    rw [selects_null, selects_null, Bool.bne_false, Bool.bne_true, Option.isNone_iff_eq_none]
    exact ⟨Iff.rfl, rfl⟩
  · exact ⟨condition?_of_taken mapped rfl none, condition?_of_taken mapped rfl none,
      condition?_of_taken mapped rfl none, fun row => rfl⟩

/-- The work package 1 has the status asked for, and the work package 3 has a status that is
missing: of a list and its complement exactly one selects the former, and none the latter. -/
theorem status_divides_planned :
    let today := plannedDatabase.today
    let first := joinedRow plannedTables (plannedItem 1 1 none none)
    let last := joinedRow plannedTables (plannedItem 3 7 none none)
    ∃ condition other,
      condition? none (.equals "status" (.texts ["New", "New"])) = some condition ∧
      condition? none (.notEquals "status" (.texts ["New", "New"])) = some other ∧
      selects today [condition] first = true ∧ selects today [other] first = false ∧
      selects today [condition] last = false ∧ selects today [other] last = false := by
  intro today first last
  have divided := opposites_divide_rows (by decide : filterColumn? "status" = some .statusName) today
  have divide := (divided.1 _ _ (.equality (.texts ["New", "New"])) none).1 _ _ rfl rfl
  have isPlaced (id statusId : Int) :
      (joinedRow plannedTables (plannedItem id statusId none none)).IsPlaced :=
    isPlaced_of_hours nofun nofun
  have found : selects today [.member .statusName false [.text "New", .text "New"]] first = true := by
    decide +kernel
  have missing : storedCell? (Reference.statusName.cell last) = none := divided.2.1 last rfl
  have filled : storedCell? (Reference.statusName.cell first) ≠ none := by decide
  refine ⟨_, _, rfl, rfl, found, ?_, divide.empty last (isPlaced 3 7) missing⟩
  exact (divide.filled first (isPlaced 1 1) filled).trans (congrArg not found)

end WorkQuery
