/-
This file holds filters and filter sets. A filter compares a property of work packages with a value
by an operator. Equality with the current user is an operator of its own, but shares its code with
plain equality; a filter that is read therefore gets that operator, or its placeholder value, from
whichever of the two is given. A filter set holds filters that all apply.
-/

import WorkQuery.Filter.Operator
import WorkQuery.Filter.Value

namespace WorkQuery

open Json Number Schema

/-- A filter. -/
structure Filter where
  property : String
  operator : Operator
  value : FilterValue
deriving DecidableEq

namespace Filter

/-! ### Making filters -/

/-- Equality with a value. -/
def equals (property : String) (value : FilterValue) : Filter :=
  ⟨property, .fixed .equals, value⟩

/-- Inequality with a value. -/
def notEquals (property : String) (value : FilterValue) : Filter :=
  ⟨property, .fixed .notEquals, value⟩

/-- Search for a text. -/
def contains (property text : String) : Filter :=
  ⟨property, .fixed .contains, .text text⟩

/-- Absence of a value. -/
def isNull (property : String) : Filter :=
  ⟨property, .fixed .isNull, .absent⟩

/-- Presence of a value. -/
def isNotNull (property : String) : Filter :=
  ⟨property, .fixed .isNotNull, .absent⟩

/-- Equality with the requesting user. -/
def currentUser (property : String) : Filter :=
  ⟨property, .fixed .currentUserEquals, .currentUser⟩

/-- Whether a filter names a property and has a value if its operator needs one. -/
def isValid (filter : Filter) : Bool :=
  filter.property != "" && (!filter.operator.requiresValue || filter.value != .absent)

/-! ### Schema -/

/-- The name of the kind that a raw value claims to be of; null where it claims none. -/
def claimedKind : Value → Value
  | .object fields => (Fields.get? fields "kind").getD .null
  | _ => .null

/-- Whether a raw operator is the one for the current user. -/
def isCurrentUserOperator (operator : Value) : Bool :=
  operator.member "kind" == .text "current_user_equals"

/-- The operator and value readers of raw members, after the two spellings of equality with the
current user are settled: the plain code beside the placeholder means the operator, and the operator
beside no value means the placeholder. -/
def settledParts (fields : Fields) : Checked Operator × Checked FilterValue :=
  let operator := (fields.get? "operator").getD .null
  let kind := claimedKind ((fields.get? "value").getD .null)
  let readOperator := required fields "operator" Operator.ofValue
  let readValue := optional fields "value" .absent FilterValue.ofValue
  if operator == .text "=" && kind == .text "current_user" then
    (.ok (.fixed .currentUserEquals), readValue)
  else if isCurrentUserOperator operator && (kind == .null || kind == .text "none") then
    (readOperator, .ok .currentUser)
  else (readOperator, readValue)

/-- A filter of a query document. -/
def ofValue (value : Value) : Checked Filter := do
  let fields ← record value
  let (operator, filterValue) := settledParts fields
  both (both ((required fields "attribute" Schema.text).map Filter.mk) operator) filterValue

/-- A filter in a query document. -/
def toValue (filter : Filter) : Value :=
  .object [("attribute", .text filter.property), ("operator", .text filter.operator.code),
    ("value", filter.value.toValue)]

end Filter

/-! ### Filter sets -/

/-- Filters that all apply, in order. The same property may occur in several of them. -/
structure FilterSet where
  filters : List Filter
deriving DecidableEq

namespace FilterSet

/-- The set without filters, which every work package passes. -/
def empty : FilterSet := ⟨[]⟩

/-- The set with one more filter at its end. -/
def add (set : FilterSet) (filter : Filter) : FilterSet :=
  ⟨set.filters ++ [filter]⟩

/-- The filters on a property. -/
def filtersFor (set : FilterSet) (property : String) : List Filter :=
  set.filters.filter fun filter => filter.property == property

/-- Whether there is a filter on a property. -/
def hasFilterFor (set : FilterSet) (property : String) : Bool :=
  set.filters.any fun filter => filter.property == property

/-- The set without the filters on a property. -/
def removeFiltersFor (set : FilterSet) (property : String) : FilterSet :=
  ⟨set.filters.filter fun filter => filter.property != property⟩

/-- The properties that are filtered, each once and in order of first use. -/
def filteredProperties (set : FilterSet) : List String :=
  (set.filters.map Filter.property).eraseDups

/-- Whether there are no filters. -/
def isEmpty (set : FilterSet) : Bool :=
  set.filters.isEmpty

/-- Whether every filter is valid. -/
def isValid (set : FilterSet) : Bool :=
  set.filters.all Filter.isValid

/-- The number of filters. -/
def size (set : FilterSet) : Nat :=
  set.filters.length

/-- The filters of a query document. -/
def ofValue (value : Value) : Checked FilterSet := do
  let fields ← record value
  (optional fields "filters" [] (items Filter.ofValue)).map FilterSet.mk

/-- Filters in a query document. -/
def toValue (set : FilterSet) : Value :=
  .object [("filters", .list (set.filters.map Filter.toValue))]

end FilterSet

end WorkQuery
