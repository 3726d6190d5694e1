/-
This file turns the filters and the sort order of a query into conditions and sort keys. A filter
that is invalid, names a property without a column or holds a value that does not suit its operator
is left out, and a notice says so; the same holds for a sort criterion without a column. Everything
else is kept, in order.
-/

import WorkQuery.Query.Basic
import WorkQuery.Sql.Condition
import WorkQuery.Text.Quoted

namespace WorkQuery.Sql

open Number Text

/-! ### Notices -/

/-- Why a part of a query has no effect. -/
inductive Notice
  | invalidFilter (property code : String)
  | unmappedFilter (property : String)
  | unsuitedValue (property code kind : String)
  | unmappedSort (property : String)
deriving DecidableEq, Repr

/-- The sentence of a notice. -/
def Notice.message : Notice → String
  | invalidFilter property code =>
    "Dropping invalid filter on " ++ quoted property ++ " (" ++ code ++ ")"
  | unmappedFilter property => "Dropping filter on unmapped attribute " ++ quoted property
  | unsuitedValue property code kind =>
    "Dropping filter " ++ quoted property ++ " " ++ code ++ ": value kind " ++ quoted kind ++
      " does not apply"
  | unmappedSort property => "Dropping sort on unmapped attribute " ++ quoted property

/-! ### Conditions of operators -/

/-- Equality with one of the elements of a value, or inequality with all of them. Nobody is the
current user of an anonymous request, so equality with the current user then holds nowhere. -/
def membership? (column : Reference) (negated : Bool) (value : FilterValue) (user : Option Int) :
    Option Condition :=
  if value = .currentUser ∧ user = none then if negated then none else some .never
  else
    match literals user value with
    | [] => none
    | [single] => some (.compare column (if negated then .unequal else .equal) single)
    | several => some (.member column negated several)

/-- A search for a text; only a single text can be searched for. -/
def search? (column : Reference) (negated : Bool) (placement : Placement) :
    FilterValue → Option Condition
  | .text text => some (.search column negated placement text)
  | _ => none

/-- A comparison with the first element of a value. -/
def comparison? (column : Reference) (comparison : Comparison) (value : FilterValue)
    (user : Option Int) : Option Condition :=
  (literals user value).head?.map (.compare column comparison)

/-- The days of a range, both ends included. -/
def between? (column : Reference) : FilterValue → Option Condition
  | .dates first last => some (.between column first last)
  | _ => none

/-- The condition of an operator of a fixed kind; none if the value does not suit it. -/
def fixedCondition? (column : Reference) (value : FilterValue) (user : Option Int) :
    FixedKind → Option Condition
  | .equals => membership? column false value user
  | .notEquals => membership? column true value user
  | .contains => search? column false .anywhere value
  | .notContains => search? column true .anywhere value
  | .startsWith => search? column false .atStart value
  | .endsWith => search? column false .atEnd value
  | .greaterThan => comparison? column .greater value user
  | .greaterOrEqual => comparison? column .greaterOrEqual value user
  | .lessThan => comparison? column .less value user
  | .lessOrEqual => comparison? column .lessOrEqual value user
  | .between => between? column value
  | .isNull => some (.null column false)
  | .isNotNull => some (.null column true)
  | .today => some (.today column)
  | .thisWeek => some (.thisWeek column)
  | .currentUserEquals =>
    match user with
    | some id => some (.compare column .equal (.integer id))
    | none => some .never

/-- The condition of an operator of a relative kind. -/
def relativeCondition (column : Reference) (days : Int) : RelativeKind → Condition
  | .daysAgo => .relative column .equal .before days
  | .daysFromNow => .relative column .equal .after days
  | .lessThanDaysAgo => .relative column .greater .before days
  | .moreThanDaysAgo => .relative column .less .before days
  | .lessThanDaysFromNow => .relative column .less .after days
  | .moreThanDaysFromNow => .relative column .greater .after days

/-- The condition of an operator on a column. -/
def operatorCondition? (column : Reference) (operator : Operator) (value : FilterValue)
    (user : Option Int) : Option Condition :=
  match operator with
  | .fixed kind => fixedCondition? column value user kind
  | .relative kind days => some (relativeCondition column days kind)

/-! ### Filters and sort orders -/

/-- The condition of a filter for a requester, or why it has none. -/
def filterCondition (user : Option Int) (filter : Filter) : Except Notice Condition :=
  if !filter.isValid then .error (.invalidFilter filter.property filter.operator.code)
  else
    match filterColumn? filter.property with
    | none => .error (.unmappedFilter filter.property)
    | some column =>
      match operatorCondition? column filter.operator filter.value user with
      | some condition => .ok condition
      | none =>
        .error (.unsuitedValue filter.property filter.operator.code filter.value.kindName)

/-- The sort key of a criterion, or why it has none. -/
def criterionKey (criterion : SortCriterion) : Except Notice SortKey :=
  match sortColumn? criterion.property with
  | some column => .ok ⟨column, criterion.direction⟩
  | none => .error (.unmappedSort criterion.property)

/-- What a list of outcomes keeps. -/
def kept {Content : Type} (outcomes : List (Except Notice Content)) : List Content :=
  outcomes.filterMap Except.toOption

/-- What a list of outcomes leaves out, as notices. -/
def notices {Content : Type} (outcomes : List (Except Notice Content)) : List Notice :=
  outcomes.filterMap fun
    | .ok _ => none
    | .error notice => some notice

/-- The conditions of a filter set for a requester. -/
def filterConditions (user : Option Int) (filters : FilterSet) : List Condition :=
  kept (filters.filters.map (filterCondition user))

/-- The filters of a set that have no condition for a requester. -/
def filterNotices (user : Option Int) (filters : FilterSet) : List Notice :=
  notices (filters.filters.map (filterCondition user))

/-- The sort keys of an order. -/
def sortKeys (order : SortOrder) : List SortKey :=
  kept (order.criteria.map criterionKey)

/-- The criteria of an order that have no sort key. -/
def sortNotices (order : SortOrder) : List Notice :=
  notices (order.criteria.map criterionKey)

/-! ### Texts -/

/-- Conditions that all have to hold, as statements write them. -/
def whereText (conditions : List Condition) : String :=
  " AND ".intercalate (conditions.map Condition.render)

/-- The sort key of a list for which no order is asked: the newest first. Every row has it. -/
def standardOrderText : String := "ORDER BY wp.id DESC"

/-- Sort keys as statements write them. -/
def orderText (keys : List SortKey) : String :=
  if keys.isEmpty then standardOrderText
  else "ORDER BY " ++ ", ".intercalate (keys.map SortKey.render)

/-! ### Queries -/

/-- What a query becomes for a requester: its conditions and sort keys, and what it leaves out. -/
structure Selection where
  conditions : List Condition
  keys : List SortKey
  notices : List Notice
deriving DecidableEq

/-- What a query selects for a requester. -/
def select (query : Query) (user : Option Int) : Selection where
  conditions := filterConditions user query.filters
  keys := sortKeys query.sorts
  notices := filterNotices user query.filters ++ sortNotices query.sorts

namespace Selection

/-- The conditions as statements write them; empty if there are none. -/
def whereText (selection : Selection) : String :=
  Sql.whereText selection.conditions

/-- The conditions as a clause; empty if there are none. -/
def whereClause (selection : Selection) : String :=
  if selection.whereText = "" then "" else "WHERE " ++ selection.whereText

/-- The sort keys as a clause. -/
def orderText (selection : Selection) : String :=
  Sql.orderText selection.keys

end Selection

end WorkQuery.Sql
