/-
This file proves that the current user is nothing but a placeholder in a filter. For a known
requester the conditions are those of the filters in which the placeholder has been replaced, and it
makes no difference who asks with those (`condition?_resolved`). For an anonymous requester there is
nobody to put in its place: a filter that asks for equality with the requester then holds nowhere,
and neither do all the conditions together (`requester_is_placeholder`).
-/

import WorkQuery.Proofs.SelectedPage

namespace WorkQuery

open Calendar Sql

/-! ### Known requesters -/

namespace Filter

/-- The filter with a user put in the place of the requester: equality with the requester becomes
equality with the user, and so does the placeholder under any other operator. -/
def resolved (user : Int) (filter : Filter) : Filter :=
  if filter.operator = .fixed .currentUserEquals then .equals filter.property (.id user)
  else if filter.value = .currentUser then { filter with value := .id user }
  else filter

theorem condition?_resolved_operator (property : String) (value : FilterValue) (user : Int)
    (anyone : Option Int) :
    condition? anyone (.equals property (.id user)) =
      condition? (some user) ⟨property, .fixed .currentUserEquals, value⟩ := by
  have same (column : Reference) :
      operatorCondition? column (.fixed .equals) (.id user) anyone =
        operatorCondition? column (.fixed .currentUserEquals) value (some user) := rfl
  rw [condition?_eq, condition?_eq]
  change (if (property != "" && true) = true then _ else _) =
    (if (property != "" && true) = true then _ else _)
  simp only [equals, same]

/-- Whatever the operator is, the placeholder counts as the user that it stands for. -/
theorem condition?_resolved_value (property : String) {operator : Operator}
    (ordinary : operator ≠ .fixed .currentUserEquals) (user : Int) (anyone : Option Int) :
    condition? anyone ⟨property, operator, .id user⟩ =
      condition? (some user) ⟨property, operator, .currentUser⟩ := by
  have same (column : Reference) :
      operatorCondition? column operator (.id user) anyone =
        operatorCondition? column operator .currentUser (some user) := by
    cases operator with
    | relative kind days => rfl
    | fixed kind =>
      cases kind with
      | currentUserEquals => exact absurd rfl ordinary
      | _ => rfl
  rw [condition?_eq, condition?_eq]
  change (if (property != "" && (!operator.requiresValue || true)) = true then _ else _) =
    (if (property != "" && (!operator.requiresValue || true)) = true then _ else _)
  simp only [same]

/-- The condition of a filter for a user is the one that it has for everyone once the user is put in
the place of the requester. -/
theorem condition?_resolved (user : Int) (anyone : Option Int) (filter : Filter) :
    condition? anyone (filter.resolved user) = condition? (some user) filter := by
  obtain ⟨property, operator, value⟩ := filter
  unfold resolved
  dsimp only
  split
  · rename_i asks
    rw [asks]
    exact condition?_resolved_operator property value user anyone
  · rename_i ordinary
    split
    · rename_i isPlaceholder
      rw [isPlaceholder]
      exact condition?_resolved_value property ordinary user anyone
    · rename_i impersonal
      exact condition?_congr ordinary impersonal anyone (some user)

end Filter

/-- The filters with a user put in the place of the requester. -/
def FilterSet.resolved (user : Int) (set : FilterSet) : FilterSet :=
  ⟨set.filters.map (Filter.resolved user)⟩

theorem filterConditions_resolved (user : Int) (anyone : Option Int) (filters : FilterSet) :
    filterConditions anyone (filters.resolved user) = filterConditions (some user) filters := by
  rw [filterConditions_eq, filterConditions_eq, FilterSet.resolved, List.filterMap_map]
  exact List.filterMap_congr fun filter _ => Filter.condition?_resolved user anyone filter

/-! ### Anonymous requesters -/

/-- A filter that asks for equality with the requester, by its operator or by the placeholder. -/
inductive Filter.EqualsRequester : Filter → Prop
  | byOperator (property : String) (value : FilterValue) :
    EqualsRequester ⟨property, .fixed .currentUserEquals, value⟩
  | byPlaceholder (property : String) : EqualsRequester (.equals property .currentUser)

/-- Nobody is the requester of an anonymous request. -/
theorem Filter.EqualsRequester.condition?_eq_never {filter : Filter}
    (asks : filter.EqualsRequester) {column : Reference}
    (mapped : filterColumn? filter.property = some column) :
    condition? none filter = some .never := by
  cases asks <;> exact condition?_of_taken mapped rfl none

namespace Sql

theorem holds?_never (today : Date) (row : JoinedRow) :
    Condition.never.holds? today row = some false := rfl

/-- Conditions with one that never holds select no row. -/
theorem selects_eq_false {conditions : List Condition} (member : .never ∈ conditions)
    (today : Date) (row : JoinedRow) : selects today conditions row = false := by
  rw [selects, List.all_eq_false]
  exact ⟨.never, member, by rw [holds?_never]; decide⟩

/-- A text of conditions with one that never holds asks for `1 = 0`. -/
theorem meaning_of_textHolds {conditions : List Condition} (member : .never ∈ conditions)
    {meaning : List Token → Prop} (holds : TextHolds meaning (whereText conditions)) :
    meaning [.word "1", .word "=", .word "0"] := by
  have read : conjuncts? Condition.never.render = some [[.word "1", .word "=", .word "0"]] := by
    decide +kernel
  have never := (textHolds_whereText meaning conditions).mp holds .never member
  rw [textHolds_iff read] at never
  exact never _ List.mem_cons_self

end Sql

/-- A run with conditions that select no row finds nothing. -/
theorem empty_of_run {database : Database} {query : Query} {request : PageRequest}
    {user : Option Int} {page : Page WorkPackage}
    (unmet : ∀ row, selects database.today (select query user).conditions row = false)
    (ran : database.run query request user = .ok page) : page.total = 0 ∧ page.items = [] := by
  have nothing (tables : Tables) :
      Database.matching tables database.today (select query user).conditions = [] := by
    rw [Database.matching, List.filter_eq_nil_iff]
    intro row _
    rw [unmet row]
    exact Bool.false_ne_true
  have unsorted : sortRows (select query user).keys [] = [] := List.mergeSort_nil
  unfold Database.run at ran
  dsimp only at ran
  split at ran
  · cases ran
  · cases ran
  · rw [nothing, unsorted, List.drop_nil, List.take_nil] at ran
    obtain rfl := Except.ok.inj ran
    exact ⟨rfl, rfl⟩

/-! ### The placeholder -/

/-- For a known requester the conditions are written as they are for everyone with the user in the
place of the requester. For an anonymous one, the conditions hold nowhere as soon as a filter on a
property with a column asks for equality with the requester: not as they are written, whatever the
other conjuncts mean, not for any row, and whatever run succeeds finds nothing. -/
theorem requester_is_placeholder (filters : FilterSet) :
    (∀ user anyone, whereText (filterConditions (some user) filters) =
      whereText (filterConditions anyone (filters.resolved user))) ∧
    ∀ filter ∈ filters.filters, filter.EqualsRequester → (filterColumn? filter.property).isSome →
      (∀ meaning, ¬meaning [.word "1", .word "=", .word "0"] →
        ¬TextHolds meaning (whereText (filterConditions none filters))) ∧
      (∀ today row, selects today (filterConditions none filters) row = false) ∧
      ∀ (database : Database) (query : Query) request page, query.filters = filters →
        database.run query request none = .ok page → page.total = 0 ∧ page.items = [] := by
  refine ⟨fun user anyone => ?_, fun filter member asks mapped => ?_⟩
  · rw [filterConditions_resolved]
  · obtain ⟨column, found⟩ := Option.isSome_iff_exists.mp mapped
    have never : Condition.never ∈ filterConditions none filters := by
      rw [filterConditions_eq]
      exact List.mem_filterMap.mpr ⟨filter, member, asks.condition?_eq_never found⟩
    refine ⟨fun meaning unequal holds => ?_, selects_eq_false never, ?_⟩
    · exact unequal (meaning_of_textHolds never holds)
    · rintro database query request page rfl ran
      exact empty_of_run (selects_eq_false never database.today) ran

/-- The planned work packages that an anonymous requester asks for are none, although two of them
are the user 5's. -/
theorem requester_is_placeholder_anonymous :
    Filter.currentUser "assigned_to_id" ∈ plannedQuery.filters.filters ∧
      (Filter.currentUser "assigned_to_id").EqualsRequester ∧
      (filterColumn? "assigned_to_id").isSome ∧
      ∃ page, plannedDatabase.run plannedQuery ⟨1, 0⟩ none = .ok page ∧
        page.total = 0 ∧ page.items = [] := by
  have member : Filter.currentUser "assigned_to_id" ∈ plannedQuery.filters.filters :=
    List.mem_cons_of_mem _ List.mem_cons_self
  have asks : (Filter.currentUser "assigned_to_id").EqualsRequester := .byOperator _ _
  have mapped : (filterColumn? "assigned_to_id").isSome := by decide
  have taken : fault? (select plannedQuery none).conditions
      (select plannedQuery none).keys = none :=
    fault?_eq_none (by decide +kernel) (by decide +kernel) (by decide +kernel)
  obtain ⟨page, ran⟩ := exists_run ⟨1, 0⟩ (rfl : plannedDatabase.tables = some plannedTables) taken
  refine ⟨member, asks, mapped, page, ran, ?_⟩
  exact ((requester_is_placeholder plannedQuery.filters).2 _ member asks mapped).2.2
    plannedDatabase plannedQuery ⟨1, 0⟩ page rfl ran

end WorkQuery
