/-
This file says how an order clause compares rows. The text of a clause is read back by the rule of
the language: its terms stand between commas, and each term says of a column whether the values
ascend and where the rows without a value stand (`OrderTerm.ofTokens?`). So read, the clause of an
order compares rows as the sort keys of the order do (`compareByText?_clause`). If all criteria are
reversed, the rows compare the other way round, except by the standard clause; and a criterion that
has no column, or the property of one before it, makes no difference (`clause_compares_rows`).
-/

import Mathlib.Logic.Relation
import WorkQuery.Proofs.RowOrder
import WorkQuery.Proofs.SelectedPage

namespace WorkQuery

open Number

namespace Sql

/-! ### Terms of a clause -/

/-- A term of an order clause: a column, whether its values descend, and whether the rows without a
value come before those with one. -/
structure OrderTerm where
  column : Reference
  descends : Bool
  emptyFirst : Bool
deriving DecidableEq

/-- The column that is written as a word. -/
def Reference.ofText? (text : String) : Option Reference :=
  (Field.all.map item ++ [statusName, statusIsClosed, statusPosition, typeName, typePosition,
    priorityName, priorityPosition]).find? fun column => column.text == text

theorem Reference.ofText?_text (column : Reference) : ofText? column.text = some column := by
  cases column with
  | item field => cases field <;> decide +kernel
  | _ => decide +kernel

/-- Whether values descend, by the word for their direction. -/
def descends? : String → Option Bool
  | "ASC" => some false
  | "DESC" => some true
  | _ => none

/-- Whether rows without a value come first, by the word for their place. -/
def emptyFirst? : String → Option Bool
  | "FIRST" => some true
  | "LAST" => some false
  | _ => none

namespace OrderTerm

/-- The term that tokens write. Where they say nothing of the rows without a value, these stand as
if they had the least value of all. -/
def ofTokens? : List Token → Option OrderTerm
  | [.word column, .word direction] => do
    let column ← Reference.ofText? column
    let descends ← descends? direction
    return ⟨column, descends, !descends⟩
  | [.word column, .word direction, .word "NULLS", .word place] => do
    let column ← Reference.ofText? column
    let descends ← descends? direction
    let emptyFirst ← emptyFirst? place
    return ⟨column, descends, emptyFirst⟩
  | _ => none

/-- How two rows compare by a term. -/
def compareRows (term : OrderTerm) (left right : JoinedRow) : Ordering :=
  match storedCell? (term.column.cell left), storedCell? (term.column.cell right) with
  | some left, some right =>
    let ordering := (left.compare? right).getD .eq
    if term.descends then ordering.swap else ordering
  | some _, none => if term.emptyFirst then .gt else .lt
  | none, some _ => if term.emptyFirst then .lt else .gt
  | none, none => .eq

end OrderTerm

/-! ### Clauses -/

/-- The terms of an order clause; none if the text is no such clause. -/
def clauseTerms? (clause : String) : Option (List OrderTerm) := do
  match tokensFrom [] (← lex clause) with
  | .word "ORDER" :: .word "BY" :: tokens =>
    (tokens.splitOn (.bracket ',')).mapM OrderTerm.ofTokens?
  | _ => none

/-- How two rows compare by the text of an order clause, the first term that tells them apart
deciding. -/
def compareByText? (clause : String) (left right : JoinedRow) : Option Ordering :=
  (clauseTerms? clause).map fun terms =>
    terms.foldr (fun term rest => (term.compareRows left right).then rest) .eq

namespace SortKey

/-- The term of a sort key. -/
def term (key : SortKey) : OrderTerm :=
  match key.direction with
  | .ascending => ⟨key.column, false, false⟩
  | .descending => ⟨key.column, true, true⟩

/-- The tokens of a sort key. -/
def tokens (key : SortKey) : List Token :=
  match key.direction with
  | .ascending => [.word key.column.text, .word "ASC", .word "NULLS", .word "LAST"]
  | .descending => [.word key.column.text, .word "DESC", .word "NULLS", .word "FIRST"]

theorem tokensFrom_render (key : SortKey) :
    tokensFrom [] (lexemesOf [.words key.render]) = key.tokens := by
  obtain ⟨column, direction⟩ := key
  cases direction with
  | ascending =>
    rw [render, tokens_column column " ASC NULLS LAST" (by decide)]
    simp [tokens, lexemesOf, tokensFrom, separator?, isBracket, endedWord]
  | descending =>
    rw [render, tokens_column column " DESC NULLS FIRST" (by decide)]
    simp [tokens, lexemesOf, tokensFrom, separator?, isBracket, endedWord]

theorem comma_notMem_tokens (key : SortKey) : Token.bracket ',' ∉ key.tokens := by
  unfold tokens
  split <;> simp

theorem ofTokens?_tokens (key : SortKey) : OrderTerm.ofTokens? key.tokens = some key.term := by
  obtain ⟨column, direction⟩ := key
  have read := column.ofText?_text
  cases direction with
  | ascending => simp [tokens, OrderTerm.ofTokens?, read, descends?, emptyFirst?, term]
  | descending => simp [tokens, OrderTerm.ofTokens?, read, descends?, emptyFirst?, term]

/-- Rows compare by the term of a sort key as they do by the key. -/
theorem compareRows_term (key : SortKey) (left right : JoinedRow) :
    key.term.compareRows left right = key.compareRows left right := by
  obtain ⟨column, direction⟩ := key
  cases direction with
  | ascending =>
    unfold term OrderTerm.compareRows compareRows compareAscending
    dsimp only
    cases storedCell? (column.cell left) <;> cases storedCell? (column.cell right) <;> rfl
  | descending =>
    unfold term OrderTerm.compareRows compareRows compareAscending
    dsimp only
    cases storedCell? (column.cell left) <;> cases storedCell? (column.cell right) <;> rfl

end SortKey

/-- Sort keys are written as their tokens with commas between them. -/
theorem lex_orderText {keys : List SortKey} (nonempty : keys ≠ []) :
    ∃ lexemes, lex (orderText keys) = some lexemes ∧
      tokensFrom [] lexemes = .word "ORDER" :: .word "BY" ::
        List.intercalate [.bracket ','] (keys.map SortKey.tokens) := by
  obtain ⟨texts, apart⟩ := writes_orderText nonempty
  refine ⟨lexemesOf (orderParts keys), texts ▸ lex_written apart, ?_⟩
  change tokensOf (orderParts keys) = _
  rw [orderParts, tokensOf_orderBy, tokensOf_commas rfl separator?_blank, List.map_map]
  exact congrArg (fun terms => _ :: _ :: List.intercalate _ terms)
    (List.map_congr_left fun key _ => key.tokensFrom_render)

/-- The clause of sort keys has a term for each of them. -/
theorem clauseTerms?_orderText {keys : List SortKey} (nonempty : keys ≠ []) :
    clauseTerms? (orderText keys) = some (keys.map SortKey.term) := by
  obtain ⟨lexemes, read, tokens⟩ := lex_orderText nonempty
  have parted : (List.intercalate [.bracket ','] (keys.map SortKey.tokens)).splitOn
      (Token.bracket ',') = keys.map SortKey.tokens := by
    refine List.splitOn_intercalate _ ?_ (mt List.map_eq_nil_iff.mp nonempty)
    exact List.forall_mem_map.mpr fun key _ => key.comma_notMem_tokens
  have each : (keys.map SortKey.tokens).mapM OrderTerm.ofTokens? =
      some (keys.map SortKey.term) := by
    rw [List.mapM_map]
    exact (congrArg keys.mapM (funext SortKey.ofTokens?_tokens)).trans List.mapM_pure
  rw [clauseTerms?, read, Option.bind_eq_bind, Option.bind_some, tokens]
  change (List.splitOn _ _).mapM _ = _
  rw [parted, each]

end Sql

/-- The order clause of a sort order. -/
def SortOrder.clause (order : SortOrder) : String :=
  Sql.orderText (Sql.sortKeys order)

namespace Sql

/-- By the text of its clause an order compares rows as it does by its sort keys. -/
theorem compareByText?_clause (order : SortOrder) (left right : JoinedRow) :
    compareByText? order.clause left right = some (compareRows (orderKeys order) left right) := by
  unfold compareByText? SortOrder.clause orderKeys
  by_cases none : sortKeys order = []
  · -- The standard clause does not say where rows without a number stand; all rows have one.
    have standard : clauseTerms? standardOrderText = some [⟨.item .id, true, false⟩] := by
      decide +kernel
    rw [none]
    change (clauseTerms? standardOrderText).map _ = _
    rw [standard]
    rfl
  · rw [clauseTerms?_orderText none, if_neg (mt List.isEmpty_iff.mp none), Option.map_some,
      List.foldr_map]
    simp only [SortKey.compareRows_term]
    rfl

/-! ### Reversed orders -/

/-- The sort key in the other direction. -/
def SortKey.reversed (key : SortKey) : SortKey :=
  { key with direction := key.direction.reverse }

theorem SortKey.compareRows_reversed (key : SortKey) (left right : JoinedRow) :
    key.reversed.compareRows left right = (key.compareRows left right).swap := by
  obtain ⟨column, direction⟩ := key
  cases direction with
  | ascending => rfl
  | descending => exact (Ordering.swap_swap).symm

theorem compareRows_reversed (keys : List SortKey) (left right : JoinedRow) :
    compareRows (keys.map SortKey.reversed) left right = (compareRows keys left right).swap := by
  induction keys with
  | nil => rfl
  | cons key keys inductionHypothesis =>
    rw [List.map_cons, compareRows_cons, compareRows_cons, Ordering.swap_then,
      key.compareRows_reversed, inductionHypothesis]

/-- The sort key of a criterion, if its property has a column. -/
def key? (criterion : SortCriterion) : Option SortKey :=
  (sortColumn? criterion.property).map fun column => ⟨column, criterion.direction⟩

theorem sortKeys_eq (order : SortOrder) : sortKeys order = order.criteria.filterMap key? := by
  unfold sortKeys kept
  rw [List.filterMap_map]
  refine List.filterMap_congr fun criterion _ => ?_
  rw [Function.comp_apply, criterionKey, key?]
  cases sortColumn? criterion.property <;> rfl

theorem sortKeys_reversed (order : SortOrder) :
    sortKeys order.reversed = (sortKeys order).map SortKey.reversed := by
  rw [sortKeys_eq, sortKeys_eq, SortOrder.reversed, List.filterMap_map, List.map_filterMap]
  refine List.filterMap_congr fun criterion _ => ?_
  change (sortColumn? criterion.property).map _ = ((sortColumn? criterion.property).map _).map _
  rw [Option.map_map]
  rfl

theorem orderKeys_of_ne_nil {order : SortOrder} (some : sortKeys order ≠ []) :
    orderKeys order = sortKeys order := by
  rw [orderKeys, if_neg (mt List.isEmpty_iff.mp some)]

/-- The row of a work package that has nothing but its number. -/
def numberedRow (id : Int) : JoinedRow := joinedRow Tables.empty (plannedItem id 1 none none)

/-- Reversing an order turns the rows round unless the order in use is the standard one, which stays
what it is. -/
theorem compareRows_reversed_iff (order : SortOrder) :
    (∀ left right, compareRows (orderKeys order.reversed) left right =
      (compareRows (orderKeys order) left right).swap) ↔ sortKeys order ≠ [] := by
  constructor
  · intro opposite none
    have noneReversed : sortKeys order.reversed = [] := by
      rw [sortKeys_reversed, none, List.map_nil]
    have different : compareRows [standardKey] (numberedRow 1) (numberedRow 2) ≠
        (compareRows [standardKey] (numberedRow 1) (numberedRow 2)).swap := by decide
    have same := opposite (numberedRow 1) (numberedRow 2)
    rw [orderKeys, orderKeys, noneReversed, none] at same
    exact different same
  · intro some left right
    have someReversed : sortKeys order.reversed ≠ [] := by
      rw [sortKeys_reversed]
      exact mt List.map_eq_nil_iff.mp some
    rw [orderKeys_of_ne_nil someReversed, orderKeys_of_ne_nil some, sortKeys_reversed,
      compareRows_reversed]

/-! ### Criteria without effect -/

theorem compareRows_append (keys others : List SortKey) (left right : JoinedRow) :
    compareRows (keys ++ others) left right =
      (compareRows keys left right).then (compareRows others left right) := by
  induction keys with
  | nil => rfl
  | cons key keys inductionHypothesis =>
    rw [List.cons_append, compareRows_cons, compareRows_cons, inductionHypothesis,
      Ordering.then_assoc]

theorem SortKey.compareRows_eq_iff {key : SortKey} {left right : JoinedRow} :
    key.compareRows left right = .eq ↔
      compareAscending (storedCell? (key.column.cell left))
        (storedCell? (key.column.cell right)) = .eq := by
  obtain ⟨column, direction⟩ := key
  cases direction with
  | ascending => rfl
  | descending => exact Ordering.swap_eq_eq

/-- A key behind another one on the same column makes no difference. -/
theorem compareRows_drop {before : List SortKey} {earlier key : SortKey} (member : earlier ∈ before)
    (same : earlier.column = key.column) (after : List SortKey) (left right : JoinedRow) :
    compareRows (before ++ key :: after) left right = compareRows (before ++ after) left right := by
  rw [compareRows_append, compareRows_append, compareRows_cons]
  cases compared : compareRows before left right with
  | lt | gt => rfl
  | eq =>
    have tied : earlier.compareRows left right = .eq := compareRows_eq_iff.mp compared _ member
    rw [SortKey.compareRows_eq_iff, same, ← SortKey.compareRows_eq_iff] at tied
    rw [tied, Ordering.eq_then]

end Sql

namespace SortOrder

/-- Whether a criterion is idle behind others: its property has no column, or one of the others is
on the same property. -/
def IsIdle (before : List SortCriterion) (criterion : SortCriterion) : Prop :=
  Sql.sortColumn? criterion.property = none ∨
    ∃ earlier ∈ before, earlier.property = criterion.property

/-- Whether a criterion that is idle behind those before it is all that an order lacks of
another. -/
inductive Drops : SortOrder → SortOrder → Prop
  | drop {before after : List SortCriterion} {criterion : SortCriterion}
    (idle : IsIdle before criterion) : Drops ⟨before ++ criterion :: after⟩ ⟨before ++ after⟩

open Sql

/-- An idle criterion makes no difference. -/
theorem Drops.compareRows_eq {order fewer : SortOrder} (drops : Drops order fewer)
    (left right : JoinedRow) :
    compareRows (orderKeys fewer) left right = compareRows (orderKeys order) left right := by
  obtain @⟨before, after, criterion, idle⟩ := drops
  have keys : sortKeys ⟨before ++ criterion :: after⟩ = before.filterMap key? ++
      ((key? criterion).toList ++ after.filterMap key?) := by
    rw [sortKeys_eq, List.filterMap_append, List.filterMap_cons]
    cases key? criterion <;> rfl
  have fewerKeys : sortKeys ⟨before ++ after⟩ = before.filterMap key? ++ after.filterMap key? := by
    rw [sortKeys_eq, List.filterMap_append]
  cases mapped : sortColumn? criterion.property with
  | none =>
    have unkeyed : key? criterion = none := by rw [key?, mapped, Option.map_none]
    rw [orderKeys, orderKeys, keys, fewerKeys, unkeyed, Option.toList_none, List.nil_append]
  | some column =>
    obtain ⟨earlier, member, same⟩ := idle.resolve_left (mapped ▸ Option.some_ne_none column)
    have keyed : key? criterion = some ⟨column, criterion.direction⟩ := by
      rw [key?, mapped, Option.map_some]
    have earlierKeyed : ⟨column, earlier.direction⟩ ∈ before.filterMap key? :=
      List.mem_filterMap.mpr ⟨earlier, member, by rw [key?, same, mapped, Option.map_some]⟩
    rw [keyed, Option.toList_some, List.singleton_append] at keys
    have present := List.mem_append_left (after.filterMap key?) earlierKeyed
    rw [orderKeys_of_ne_nil (fewerKeys ▸ List.ne_nil_of_mem present),
      orderKeys_of_ne_nil (keys ▸ List.ne_nil_of_mem (List.mem_append_left _ earlierKeyed)), keys,
      fewerKeys]
    refine (compareRows_drop earlierKeyed ?_ _ left right).symm
    rfl

/-- However many idle criteria are dropped one after the other, it makes no difference. -/
theorem compareRows_eq_of_drops {order fewer : SortOrder}
    (drops : Relation.ReflTransGen Drops order fewer) (left right : JoinedRow) :
    compareRows (orderKeys fewer) left right = compareRows (orderKeys order) left right := by
  induction drops with
  | refl => rfl
  | tail _ last inductionHypothesis =>
    exact (last.compareRows_eq left right).trans inductionHypothesis

end SortOrder

open Sql

/-- The clause of every order compares any two rows. If all criteria are reversed, any two rows
compare the other way round, rows without a value included, exactly if some criterion has a column;
and dropping idle criteria never makes a difference. -/
theorem clause_compares_rows (order : SortOrder) :
    (∀ left right : JoinedRow, ∃ ordering,
      compareByText? order.clause left right = some ordering) ∧
    ((∃ criterion ∈ order.criteria, sortColumn? criterion.property ≠ none) ↔
      ∀ left right : JoinedRow, compareByText? order.reversed.clause left right =
        (compareByText? order.clause left right).map Ordering.swap) ∧
    ∀ fewer, Relation.ReflTransGen SortOrder.Drops order fewer →
      ∀ left right : JoinedRow,
        compareByText? fewer.clause left right = compareByText? order.clause left right := by
  simp only [compareByText?_clause, Option.map_some, Option.some.injEq]
  refine ⟨fun left right => ⟨_, rfl⟩, ?_, fun fewer => SortOrder.compareRows_eq_of_drops⟩
  rw [compareRows_reversed_iff, Ne, sortKeys_eq_nil_iff]
  push Not
  rfl

/-- The row of a work package with a priority. -/
def urgentRow : JoinedRow :=
  { numberedRow 1 with priority := some ⟨4, "High", "IssuePriority", some 3⟩ }

/-- An order that has been put together carelessly: the third criterion is on the property of the
first, and the second is on one that has no column. -/
def carelessOrder : SortOrder :=
  ⟨[⟨"priority", .descending⟩, ⟨"watcher", .ascending⟩, ⟨"priority", .ascending⟩,
    ⟨"id", .ascending⟩]⟩

/-- A work package without a priority comes before one with a priority, also if only the two
criteria that matter are left, and behind it in the reversed order. -/
theorem clause_compares_rows_careless :
    let settled : SortOrder := ⟨[⟨"priority", .descending⟩, ⟨"id", .ascending⟩]⟩
    carelessOrder.clause = "ORDER BY p.position DESC NULLS FIRST, p.position ASC NULLS LAST, " ++
        "wp.id ASC NULLS LAST" ∧
      compareByText? carelessOrder.clause (numberedRow 2) urgentRow = some .lt ∧
      compareByText? carelessOrder.reversed.clause (numberedRow 2) urgentRow = some .gt ∧
      Relation.ReflTransGen SortOrder.Drops carelessOrder settled ∧
      compareByText? settled.clause (numberedRow 2) urgentRow = some .lt := by
  intro settled
  have before : compareByText? carelessOrder.clause (numberedRow 2) urgentRow = some .lt := by
    rw [compareByText?_clause]
    decide
  have drops : Relation.ReflTransGen SortOrder.Drops carelessOrder settled := by
    have unmapped : SortOrder.Drops carelessOrder ⟨[⟨"priority", .descending⟩,
        ⟨"priority", .ascending⟩, ⟨"id", .ascending⟩]⟩ :=
      @SortOrder.Drops.drop [⟨"priority", .descending⟩] _ _ (.inl (by decide))
    have repeated : SortOrder.Drops ⟨[⟨"priority", .descending⟩, ⟨"priority", .ascending⟩,
        ⟨"id", .ascending⟩]⟩ settled :=
      @SortOrder.Drops.drop [⟨"priority", .descending⟩] _ _
        (.inr ⟨_, List.mem_singleton_self _, rfl⟩)
    exact .tail (.single unmapped) repeated
  obtain ⟨-, opposite, fewer⟩ := clause_compares_rows carelessOrder
  refine ⟨by decide +kernel, before, ?_, drops, (fewer settled drops _ _).trans before⟩
  have reversed := opposite.mp ⟨_, List.mem_cons_self, by decide⟩ (numberedRow 2) urgentRow
  rw [reversed, before]
  rfl

end WorkQuery
