/-
This file looks at the conditions of filters one by one. A filter has a condition only if it is
valid and its property has a column, and the conditions of a filter set are those of its filters, in
order (`filterConditions_eq`). Only filters that ask for the requester, or that compare with the
placeholder for one, have different conditions for different requesters (`condition?_congr`).
-/

import WorkQuery.Sql.Selection

namespace WorkQuery.Sql

/-- The condition of a filter for a requester, if it has one. -/
def condition? (user : Option Int) (filter : Filter) : Option Condition :=
  (filterCondition user filter).toOption

theorem filterConditions_eq (user : Option Int) (filters : FilterSet) :
    filterConditions user filters = filters.filters.filterMap (condition? user) :=
  List.filterMap_map

/-- Filter sets whose filters have the same conditions one by one have the same conditions. -/
theorem filterConditions_congr {user : Option Int} {left right : FilterSet}
    (same : left.filters.map (condition? user) = right.filters.map (condition? user)) :
    filterConditions user left = filterConditions user right := by
  have kept (filters : FilterSet) :
      filterConditions user filters = (filters.filters.map (condition? user)).filterMap id := by
    rw [filterConditions_eq, List.filterMap_map]
    rfl
  rw [kept, kept, same]

theorem forall_mem_filterConditions {user : Option Int} {filters : FilterSet}
    {property : Condition → Prop} :
    (∀ condition ∈ filterConditions user filters, property condition) ↔
      ∀ filter ∈ filters.filters, ∀ condition ∈ condition? user filter, property condition := by
  rw [filterConditions_eq]
  exact List.forall_mem_filterMap

theorem condition?_eq (user : Option Int) (filter : Filter) :
    condition? user filter =
      if filter.isValid then
        (filterColumn? filter.property).bind fun column =>
          operatorCondition? column filter.operator filter.value user
      else none := by
  unfold condition? filterCondition
  cases filter.isValid with
  | false => rfl
  | true =>
    cases filterColumn? filter.property with
    | none => rfl
    | some column =>
      dsimp only [Option.bind_some]
      cases operatorCondition? column filter.operator filter.value user <;> rfl

theorem condition?_of_unmapped {filter : Filter} (unmapped : filterColumn? filter.property = none)
    (user : Option Int) : condition? user filter = none := by
  rw [condition?_eq, unmapped, Option.bind_none, ite_self]

/-- On a property with a column only the missing value makes a filter invalid. -/
theorem condition?_of_mapped {property : String} {column : Reference}
    (mapped : filterColumn? property = some column) (operator : Operator) (value : FilterValue)
    (user : Option Int) :
    condition? user ⟨property, operator, value⟩ =
      if !operator.requiresValue || value != .absent then
        operatorCondition? column operator value user
      else none := by
  have named : property ≠ "" := by
    rintro rfl
    cases mapped
  have valid : Filter.isValid ⟨property, operator, value⟩ =
      (!operator.requiresValue || value != .absent) := by
    rw [Filter.isValid, bne_iff_ne.mpr named, Bool.true_and]
  rw [condition?_eq, valid, mapped, Option.bind_some]

theorem condition?_of_taken {property : String} {column : Reference}
    (mapped : filterColumn? property = some column) {operator : Operator} {value : FilterValue}
    (taken : (!operator.requiresValue || value != .absent) = true) (user : Option Int) :
    condition? user ⟨property, operator, value⟩ =
      operatorCondition? column operator value user := by
  rw [condition?_of_mapped mapped, if_pos taken]

theorem literals_congr {value : FilterValue} (impersonal : value ≠ .currentUser)
    (user user' : Option Int) : literals user value = literals user' value := by
  cases value with
  | currentUser => exact absurd rfl impersonal
  | _ => rfl

/-- A filter that neither asks for the requester nor compares with the placeholder has the same
condition for everyone. -/
theorem condition?_congr {filter : Filter}
    (ordinary : filter.operator ≠ .fixed .currentUserEquals)
    (impersonal : filter.value ≠ .currentUser) (user user' : Option Int) :
    condition? user filter = condition? user' filter := by
  have same (column : Reference) : operatorCondition? column filter.operator filter.value user =
      operatorCondition? column filter.operator filter.value user' := by
    cases operator : filter.operator with
    | relative kind days => rfl
    | fixed kind =>
      have membership (negated : Bool) : membership? column negated filter.value user =
          membership? column negated filter.value user' := by
        have other (user : Option Int) : ¬(filter.value = .currentUser ∧ user = none) :=
          fun both => impersonal both.1
        unfold membership?
        rw [literals_congr impersonal user user', if_neg (other user), if_neg (other user')]
      have comparison (sign : Comparison) : comparison? column sign filter.value user =
          comparison? column sign filter.value user' := by
        unfold comparison?
        rw [literals_congr impersonal user user']
      cases kind with
      | currentUserEquals => exact absurd operator ordinary
      | equals | notEquals => exact membership _
      | greaterThan | greaterOrEqual | lessThan | lessOrEqual => exact comparison _
      | _ => rfl
  simp only [condition?_eq, same]

end WorkQuery.Sql
