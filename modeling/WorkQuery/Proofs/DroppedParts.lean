/-
This file accounts for every part of a query. A filter is dropped if and only if it names no
property with a column, has no value where its operator needs one, or has a value that does not fit
its operator (`filterText?_eq_none_iff`); a sort criterion is dropped if and only if its property
has no column. What is kept stands in the clauses, in order, and for each part that is dropped there
is one notice, the filters first (`isAccountOf_select`).
-/

import WorkQuery.Proofs.FilterCondition
import WorkQuery.Proofs.Outcome

namespace WorkQuery.Sql

open Number

/-! ### Kept and dropped outcomes -/

section Outcomes

variable {Item Content : Type} {read : Item → Except Notice Content} {dropped : Item → Prop}
  {notice : Item → Notice}

/-- Just the dropped items fail, each with its notice. -/
structure FailsIfDropped (read : Item → Except Notice Content) (dropped : Item → Prop)
    (notice : Item → Notice) : Prop where
  drops : ∀ item, dropped item → read item = .error (notice item)
  keeps : ∀ item, ¬dropped item → ∃ content, read item = .ok content

theorem FailsIfDropped.toOption_eq_none_iff (fails : FailsIfDropped read dropped notice)
    (item : Item) : (read item).toOption = none ↔ dropped item := by
  constructor
  · intro failed
    by_contra isKept
    obtain ⟨content, found⟩ := fails.keeps item isKept
    rw [found] at failed
    cases failed
  · intro isDropped
    rw [fails.drops item isDropped]
    rfl

variable [DecidablePred dropped]

/-- There is one notice for each dropped item, in order. -/
theorem FailsIfDropped.notices_map (fails : FailsIfDropped read dropped notice)
    (items : List Item) :
    notices (items.map read) = (items.filter fun item => dropped item).map notice := by
  unfold notices
  induction items with
  | nil => rfl
  | cons item items inductionHypothesis =>
    rw [List.map_cons, List.filter_cons]
    by_cases isDropped : dropped item
    · rw [fails.drops item isDropped, if_pos (decide_eq_true isDropped), List.map_cons,
        ← inductionHypothesis]
      rfl
    · obtain ⟨content, found⟩ := fails.keeps item isDropped
      rw [found, if_neg (by simpa using isDropped), ← inductionHypothesis]
      rfl

/-- The other items are kept, in order. -/
theorem FailsIfDropped.map_kept (fails : FailsIfDropped read dropped notice) (items : List Item) :
    (items.filter fun item => ¬dropped item).map (fun item => (read item).toOption) =
      (kept (items.map read)).map some := by
  unfold kept
  induction items with
  | nil => rfl
  | cons item items inductionHypothesis =>
    rw [List.map_cons, List.filter_cons]
    by_cases isDropped : dropped item
    · rw [fails.drops item isDropped, if_neg (by simpa using isDropped), inductionHypothesis]
      rfl
    · obtain ⟨content, found⟩ := fails.keeps item isDropped
      rw [if_pos (decide_eq_true isDropped), List.map_cons, inductionHypothesis, found]
      rfl

/-- The texts of the kept items are those of what is kept, in order. -/
theorem FailsIfDropped.map_texts (fails : FailsIfDropped read dropped notice)
    (write : Content → String) (items : List Item) :
    (items.filter fun item => ¬dropped item).map (fun item => (read item).toOption.map write) =
      ((kept (items.map read)).map write).map some := by
  have texts := congrArg (List.map (Option.map write)) (fails.map_kept items)
  rw [List.map_map, List.map_map] at texts
  rw [List.map_map]
  exact texts

end Outcomes

/-! ### Values that do not fit -/

/-- Whether a value is a single text. -/
def isText : FilterValue → Bool
  | .text _ => true
  | _ => false

/-- Whether a value is a range of days. -/
def isRange : FilterValue → Bool
  | .dates .. => true
  | _ => false

/-- Whether a value that is there has nothing to compare with: an empty list, a number that is not
finite, or the requester of an anonymous request. Equality with such a requester holds nowhere, and
the filter is kept for that. -/
def lacksLiteral (user : Option Int) (kind : FixedKind) : FilterValue → Bool
  | .ids values => values.isEmpty
  | .texts values => values.isEmpty
  | .number number => !number.isFinite
  | .currentUser => user.isNone && kind != .equals
  | _ => false

/-- Whether a value that is there does not fit an operator. Whatever is not searched in, no range
and not compared with fits. -/
def misfits (user : Option Int) (value : FilterValue) : Operator → Bool
  | .fixed .contains | .fixed .notContains | .fixed .startsWith | .fixed .endsWith => !isText value
  | .fixed .between => !isRange value
  | .fixed .equals => lacksLiteral user .equals value
  | .fixed .notEquals => lacksLiteral user .notEquals value
  | .fixed .greaterThan => lacksLiteral user .greaterThan value
  | .fixed .greaterOrEqual => lacksLiteral user .greaterOrEqual value
  | .fixed .lessThan => lacksLiteral user .lessThan value
  | .fixed .lessOrEqual => lacksLiteral user .lessOrEqual value
  | _ => false

theorem search?_eq_none_iff (column : Reference) (negated : Bool) (placement : Placement)
    (value : FilterValue) : search? column negated placement value = none ↔ !isText value := by
  cases value <;> simp [search?, isText]

theorem between?_eq_none_iff (column : Reference) (value : FilterValue) :
    between? column value = none ↔ !isRange value := by
  cases value <;> simp [between?, isRange]

theorem numberLiteral?_eq_none_iff (number : Binary64) :
    numberLiteral? number = none ↔ !number.isFinite := by
  unfold numberLiteral?
  cases number.isFinite with
  | false => exact iff_of_true rfl rfl
  | true =>
    refine iff_of_false ?_ (by decide)
    rw [if_pos rfl]
    split <;> exact nofun

/-- What lacks a literal beside equality is just what has no literals. -/
theorem literals_eq_nil_iff {kind : FixedKind} (unequal : kind ≠ .equals) (user : Option Int)
    {value : FilterValue} (present : value ≠ .absent) :
    literals user value = [] ↔ lacksLiteral user kind value := by
  cases value with
  | absent => exact absurd rfl present
  | ids values => rw [literals, List.map_eq_nil_iff, lacksLiteral, List.isEmpty_iff]
  | texts values => rw [literals, List.map_eq_nil_iff, lacksLiteral, List.isEmpty_iff]
  | number number =>
    rw [literals, Option.toList_eq_nil_iff, lacksLiteral, numberLiteral?_eq_none_iff]
  | currentUser => cases user <;> simp [literals, lacksLiteral, unequal]
  | _ => exact iff_of_false (List.cons_ne_nil _ _) Bool.false_ne_true

theorem comparison?_eq_none_iff {kind : FixedKind} (unequal : kind ≠ .equals) (column : Reference)
    (comparison : Comparison) {value : FilterValue} (present : value ≠ .absent)
    (user : Option Int) :
    comparison? column comparison value user = none ↔ lacksLiteral user kind value := by
  rw [comparison?, Option.map_eq_none_iff, List.head?_eq_none_iff, literals_eq_nil_iff unequal user
    present]

/-- A membership is dropped without literals only, equality with the requester apart. -/
theorem membership?_eq_none_iff (column : Reference) (negated : Bool) {value : FilterValue}
    (present : value ≠ .absent) (user : Option Int) :
    membership? column negated value user = none ↔
      lacksLiteral user (if negated then .notEquals else .equals) value := by
  unfold membership?
  split
  · rename_i nobody
    obtain ⟨rfl, rfl⟩ := nobody
    -- Equality is kept as a condition that holds nowhere; its negation is dropped.
    cases negated
    · exact iff_of_false nofun (by decide)
    · exact iff_of_true rfl rfl
  · rename_i somebody
    have anyKind : lacksLiteral user (if negated then .notEquals else .equals) value =
        lacksLiteral user .notEquals value := by
      cases value with
      | currentUser =>
        cases user with
        | none => exact absurd ⟨rfl, rfl⟩ somebody
        | some id => rfl
      | _ => rfl
    have unequal : FixedKind.notEquals ≠ .equals := by decide
    rw [anyKind, ← literals_eq_nil_iff unequal user present]
    match literals user value with
    | [] => exact iff_of_true rfl rfl
    | [single] => exact iff_of_false nofun (List.cons_ne_nil _ _)
    | first :: second :: rest => exact iff_of_false nofun (List.cons_ne_nil _ _)

/-- An operator has no condition on a column if and only if the value does not fit it. -/
theorem operatorCondition?_eq_none_iff (column : Reference) {operator : Operator}
    {value : FilterValue} (user : Option Int)
    (valued : ¬(operator.requiresValue = true ∧ value = .absent)) :
    operatorCondition? column operator value user = none ↔ misfits user value operator := by
  cases operator with
  | relative kind days => exact iff_of_false nofun Bool.false_ne_true
  | fixed kind =>
    cases kind with
    | equals => exact membership?_eq_none_iff column false (fun same => valued ⟨rfl, same⟩) user
    | notEquals => exact membership?_eq_none_iff column true (fun same => valued ⟨rfl, same⟩) user
    | contains | notContains | startsWith | endsWith => exact search?_eq_none_iff column _ _ value
    | greaterThan | greaterOrEqual | lessThan | lessOrEqual =>
      exact comparison?_eq_none_iff (by decide) column _ (fun same => valued ⟨rfl, same⟩) user
    | between => exact between?_eq_none_iff column value
    | isNull | isNotNull | today | thisWeek => exact iff_of_false nofun Bool.false_ne_true
    | currentUserEquals => cases user <;> exact iff_of_false nofun Bool.false_ne_true

/-! ### Dropped filters -/

/-- Whether a filter has no effect for a requester. -/
def IsDropped (user : Option Int) (filter : Filter) : Prop :=
  filter.property = "" ∨ filter.property ∉ filterColumns.map Prod.fst ∨
    (filter.operator.requiresValue = true ∧ filter.value = .absent) ∨
    misfits user filter.value filter.operator = true

instance (user : Option Int) : DecidablePred (IsDropped user) := fun filter =>
  inferInstanceAs (Decidable (filter.property = "" ∨ _ ∨ (_ ∧ _) ∨ _ = true))

/-- What is said of a filter that is dropped. -/
def dropNotice (filter : Filter) : Notice :=
  if filter.property = "" ∨ (filter.operator.requiresValue = true ∧ filter.value = .absent) then
    .invalidFilter filter.property filter.operator.code
  else if filter.property ∉ filterColumns.map Prod.fst then .unmappedFilter filter.property
  else .unsuitedValue filter.property filter.operator.code filter.value.kindName

/-- The text of the condition of a filter for a requester, if it has one. -/
def filterText? (user : Option Int) (filter : Filter) : Option String :=
  (filterCondition user filter).toOption.map Condition.render

theorem lookup_eq_none_iff {columns : List (String × Reference)} {property : String} :
    columns.lookup property = none ↔ property ∉ columns.map Prod.fst := by
  rw [List.lookup_eq_none_iff, List.mem_map]
  constructor
  · rintro apart ⟨entry, member, rfl⟩
    exact absurd (apart entry member) (by simp)
  · intro absent entry member
    rw [bne_iff_ne]
    rintro rfl
    exact absent ⟨entry, member, rfl⟩

theorem isValid_iff (filter : Filter) : filter.isValid = true ↔
    ¬(filter.property = "" ∨ (filter.operator.requiresValue = true ∧ filter.value = .absent)) := by
  rw [Filter.isValid, Bool.and_eq_true_iff, Bool.or_eq_true_iff, bne_iff_ne, bne_iff_ne, not_or,
    Bool.not_eq_true', ← Bool.not_eq_true, not_and_or]

/-- Just the dropped filters have no condition, and each of them has its notice instead. -/
theorem failsIfDropped_filterCondition (user : Option Int) :
    FailsIfDropped (filterCondition user) (IsDropped user) dropNotice := by
  constructor
  · intro filter isDropped
    unfold filterCondition dropNotice
    by_cases valid : filter.isValid = true
    · have named := (isValid_iff filter).mp valid
      rw [valid, if_neg named, Bool.not_true, if_neg Bool.false_ne_true]
      cases found : filterColumn? filter.property with
      | none => rw [if_pos (lookup_eq_none_iff.mp found)]
      | some column =>
        have mapped : ¬filter.property ∉ filterColumns.map Prod.fst := by
          rw [← lookup_eq_none_iff, ← filterColumn?, found]
          exact nofun
        have valued := (not_or.mp named).2
        have misfit : misfits user filter.value filter.operator = true :=
          ((isDropped.resolve_left (not_or.mp named).1).resolve_left mapped).resolve_left valued
        dsimp only
        rw [if_neg mapped, (operatorCondition?_eq_none_iff column user valued).mpr misfit]
    · rw [if_pos (not_not.mp (mt (isValid_iff filter).mpr valid)), Bool.eq_false_iff.mpr valid]
      rfl
  · intro filter isKept
    obtain ⟨named, mapped, valued, fits⟩ : _ ∧ _ ∧ _ ∧ _ := by
      simpa only [IsDropped, not_or] using isKept
    have valid := (isValid_iff filter).mpr (not_or.mpr ⟨named, valued⟩)
    have inTable : filterColumn? filter.property ≠ none := mt lookup_eq_none_iff.mp mapped
    obtain ⟨column, found⟩ := Option.ne_none_iff_exists'.mp inTable
    have suited := mt (operatorCondition?_eq_none_iff column user valued).mp fits
    obtain ⟨condition, made⟩ := Option.ne_none_iff_exists'.mp suited
    refine ⟨condition, ?_⟩
    unfold filterCondition
    rw [valid, found, Bool.not_true, if_neg Bool.false_ne_true]
    dsimp only
    rw [made]

/-- A filter has no text for a requester if and only if it is dropped. -/
theorem filterText?_eq_none_iff (user : Option Int) (filter : Filter) :
    filterText? user filter = none ↔ IsDropped user filter := by
  rw [filterText?, Option.map_eq_none_iff]
  exact (failsIfDropped_filterCondition user).toOption_eq_none_iff filter

/-! ### Dropped criteria -/

/-- Whether a criterion has no effect. -/
def IsUnmapped (criterion : SortCriterion) : Prop :=
  criterion.property ∉ sortColumns.map Prod.fst

instance : DecidablePred IsUnmapped := fun criterion =>
  inferInstanceAs (Decidable (criterion.property ∉ _))

/-- The text of the sort key of a criterion, if it has one. -/
def criterionText? (criterion : SortCriterion) : Option String :=
  (criterionKey criterion).toOption.map SortKey.render

/-- Just the criteria without a column have no sort key. -/
theorem failsIfDropped_criterionKey :
    FailsIfDropped criterionKey IsUnmapped fun criterion => .unmappedSort criterion.property := by
  constructor
  · intro criterion unmapped
    rw [criterionKey, sortColumn?, lookup_eq_none_iff.mpr unmapped]
  · intro criterion mapped
    obtain ⟨column, found⟩ := Option.ne_none_iff_exists'.mp (mt lookup_eq_none_iff.mp mapped)
    exact ⟨⟨column, criterion.direction⟩, by rw [criterionKey, sortColumn?, found]⟩

/-- A sort key says where the rows without a value come, which the order without keys does not. -/
theorem orderText_eq_standard_iff (keys : List SortKey) :
    orderText keys = standardOrderText ↔ keys = [] := by
  constructor
  · intro same
    cases keys with
    | nil => rfl
    | cons key keys =>
      -- The letter is that of NULLS, behind every key.
      exfalso
      have inKey : 'U' ∈ key.render.toList := by
        unfold SortKey.render
        split <;> exact String.toList_append ▸ List.mem_append_right _ (by decide)
      have inText : 'U' ∈ (orderText (key :: keys)).toList := by
        rw [orderText, List.isEmpty_cons, if_neg Bool.false_ne_true, String.toList_append,
          List.map_cons]
        refine List.mem_append_right _ ?_
        cases keys with
        | nil => rwa [List.map_nil, String.intercalate_singleton]
        | cons next others =>
          rw [List.map_cons, String.intercalate_cons_cons, String.toList_append,
            String.toList_append]
          exact List.mem_append_left _ (List.mem_append_left _ inKey)
      rw [same] at inText
      exact absurd inText (by decide)
  · rintro rfl
    rfl

/-! ### The account of a query -/

/-- What a selection says of the parts of a query: the texts of the kept filters are joined in their
order; there is a notice for each filter and then for each criterion that is dropped; the order is
the standard one if no criterion has a column and otherwise that of the criteria that have one. -/
structure IsAccountOf (query : Query) (user : Option Int) (selection : Selection) : Prop where
  conditions : ∃ texts,
    (query.filters.filters.filter fun filter => ¬IsDropped user filter).map (filterText? user) =
        texts.map some ∧
      selection.whereText = " AND ".intercalate texts
  notices : selection.notices =
    (query.filters.filters.filter fun filter => IsDropped user filter).map dropNotice ++
      (query.sorts.criteria.filter fun criterion => IsUnmapped criterion).map
        fun criterion => .unmappedSort criterion.property
  standardOrder : selection.orderText = "ORDER BY wp.id DESC" ↔
    ∀ criterion ∈ query.sorts.criteria, IsUnmapped criterion
  order : ¬(∀ criterion ∈ query.sorts.criteria, IsUnmapped criterion) → ∃ texts,
    (query.sorts.criteria.filter fun criterion => ¬IsUnmapped criterion).map criterionText? =
        texts.map some ∧
      selection.orderText = "ORDER BY " ++ ", ".intercalate texts

theorem sortKeys_eq_nil_iff_unmapped (order : SortOrder) :
    sortKeys order = [] ↔ ∀ criterion ∈ order.criteria, IsUnmapped criterion := by
  have texts := failsIfDropped_criterionKey.map_kept order.criteria
  rw [← List.map_eq_nil_iff (f := some), sortKeys, ← texts, List.map_eq_nil_iff,
    List.filter_eq_nil_iff]
  simp only [decide_eq_true_eq, not_not]

/-- For every query and every requester, the filters that are dropped are exactly known, and what
the query selects accounts for each of its filters and sort criteria. -/
theorem isAccountOf_select (query : Query) (user : Option Int) :
    (∀ filter, filterText? user filter = none ↔ IsDropped user filter) ∧
      IsAccountOf query user (select query user) := by
  have filters := failsIfDropped_filterCondition user
  have criteria := failsIfDropped_criterionKey
  refine ⟨filterText?_eq_none_iff user, ?_, ?_, ?_, fun some => ?_⟩
  · exact ⟨_, filters.map_texts Condition.render query.filters.filters, rfl⟩
  · exact congrArg₂ _ (filters.notices_map query.filters.filters)
      (criteria.notices_map query.sorts.criteria)
  · rw [← sortKeys_eq_nil_iff_unmapped]
    exact orderText_eq_standard_iff (sortKeys query.sorts)
  · refine ⟨_, criteria.map_texts SortKey.render query.sorts.criteria, ?_⟩
    have present : ¬(sortKeys query.sorts).isEmpty = true :=
      mt List.isEmpty_iff.mp (mt (sortKeys_eq_nil_iff_unmapped query.sorts).mp some)
    exact if_neg present

end WorkQuery.Sql
