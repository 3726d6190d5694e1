/-
This file holds the compact form of filters: objects whose members are properties, each with the
code of an operator and a list of values. Values carry no kind in this form; the kind is prescribed
by the property and the operator. The placeholder `me` stands for the requester where identifiers
are expected.
-/

import WorkQuery.CompactForm.Input
import WorkQuery.Filter.Basic

namespace WorkQuery.CompactForm

open Calendar Json Number Schema Text

/-! ### Properties -/

/-- What the values of a property are. -/
inductive PropertyClass
  | identifier
  | day
  | number
  | truth
  | free
deriving DecidableEq, Repr

/-- The properties whose values are identifiers. -/
def identifierProperties : List String :=
  ["id", "project_id", "type_id", "status_id", "priority_id", "author_id", "assigned_to_id",
   "responsible_id", "category_id", "version_id", "parent_id"]

/-- The properties whose values are days. -/
def dayProperties : List String :=
  ["start_date", "due_date", "created_at", "updated_at"]

/-- The properties whose values are numbers. -/
def numberProperties : List String :=
  ["estimated_hours", "done_ratio", "priority_position"]

/-- The properties whose values are truth values. -/
def truthProperties : List String :=
  ["status_is_closed"]

/-- What the values of a property are; those of a property that is not listed are texts. -/
def PropertyClass.of (property : String) : PropertyClass :=
  if identifierProperties.contains property then .identifier
  else if dayProperties.contains property then .day
  else if numberProperties.contains property then .number
  else if truthProperties.contains property then .truth
  else .free

/-! ### Values -/

/-- The word that stands for the requester. -/
def placeholder : String := "me"

/-- The day that a text writes. -/
def parseDate (written : String) : Except Failure Date :=
  match Date.read? written with
  | some date => .ok date
  | none => .error (.parse (.date written))

/-- The words that mean true in the compact form. -/
def trueWords : List String := ["t", "true", "1", "yes"]

/-- The words that mean false in the compact form. -/
def falseWords : List String := ["f", "false", "0", "no"]

/-- The value of one written word, where the property or the operator expects a single one. -/
def singleValue (property written : String) : PropertyClass → Except Failure FilterValue
  | .truth =>
    let word := lowered written
    if trueWords.contains word then .ok (.truth true)
    else if falseWords.contains word then .ok (.truth false)
    else .error (.parse (.truth property written))
  | .day => (parseDate written).map .date
  | _ =>
    match readNumber? written with
    | some number => .ok (.number number)
    | none => .error (.parse (.values property [written]))

/-- The value of written identifiers. -/
def identifierValue (property : String) (written : List String) : Except Failure FilterValue :=
  match written.mapM readInteger with
  | .ok ids => .ok (.ofIds ids)
  | .error _ => .error (.parse (.values property written))

/-- The value of an operator that is given none: a day count stands for itself, and every other
operator has no value. A day count beyond all numbers does not fit. -/
def defaultValue (operator : Operator) : Except Failure FilterValue :=
  match operator.days? with
  | some days =>
    match Binary64.ofInt? days with
    | some number => .ok (.number number)
    | none => .error (.invalid [⟨[.field "value"], .numberKind⟩])
  | none => .ok .absent

/-- The class that decides how written values are typed: a relative operator compares with a number
whatever the property is, unless the property has identifiers or a truth value. -/
def effectiveClass (property : String) (operator : Operator) : PropertyClass :=
  match PropertyClass.of property with
  | .identifier => .identifier
  | .truth => .truth
  | other => if operator.isRelative then .number else other

/-- The value that written words stand for under a property and an operator other than a range. -/
def typedWords (property : String) (operator : Operator) (written : List String) :
    Except Failure FilterValue :=
  let propertyClass := PropertyClass.of property
  let personal := propertyClass = .identifier ∨ operator = .fixed .currentUserEquals
  let scalar := (propertyClass ≠ .identifier ∧ propertyClass ≠ .free) ∨ operator.isRelative
  if written.isEmpty then defaultValue operator
  else if written.contains placeholder ∧ personal then
    if 1 < written.length then .error (.parse (.combinedPlaceholder property))
    else .ok .currentUser
  else if scalar ∧ 1 < written.length then
    .error (.parse (.severalValues property written.length))
  else
    match effectiveClass property operator, written with
    | .identifier, _ => identifierValue property written
    | .free, _ => .ok (.ofTexts written)
    | effective, word :: _ => singleValue property word effective
    | _, [] => defaultValue operator

/-- The value that written words stand for under a property and an operator; a range needs exactly
two days. -/
def valueOfWords (property : String) (operator : Operator) (written : List String) :
    Except Failure FilterValue :=
  if operator = .fixed .between then
    match written with
    | [first, last] => do
      let first ← parseDate first
      let last ← parseDate last
      return .dates first last
    | _ => .error (.parse (.rangeLength property))
  else typedWords property operator written

/-- The value that a list of raw values stands for. Nulls are left out, everything else is taken as
a text. -/
def typedValue (property : String) (operator : Operator) (raw : List Value) :
    Except Failure FilterValue := do
  let written ← (raw.filter fun value => !(value == .null)).mapM word
  valueOfWords property operator written

/-! ### Operators -/

/-- The operator of a code, or of a bare mark for relative days that takes its day count from the
first value. -/
def operatorOfCode (code : String) (values : List Value) : Except Failure (Option Operator) := do
  match ← (Operator.parse code).mapError .conversion with
  | some operator => return some operator
  | none =>
    match RelativeKind.all.any fun kind => kind.mark == code, values with
    | true, first :: _ => do
      let count ← word first
      (Operator.parse (code ++ count)).mapError .conversion
    | _, _ => return none

/-- The operator that is meant by one that was read: equality on a property with identifiers whose
values name the requester is equality with the current user. Only equality looks at the values. -/
def settledOperator (property : String) (operator : Operator) (values : List Value) :
    Except Failure Operator :=
  if operator = .fixed .equals then do
    let written ← values.mapM word
    return if written.contains placeholder ∧ PropertyClass.of property = .identifier then
      .fixed .currentUserEquals
    else operator
  else .ok operator

/-- The operator of a filter body. -/
def parseOperator (property : String) (code : Value) (values : List Value) :
    Except Failure Operator :=
  match code with
  | .text code => do
    match ← operatorOfCode code values with
    | none => .error (.parse (.unknownOperator property code))
    | some operator => settledOperator property operator values
  | _ => .error (.parse (.operatorShape property))

/-! ### Filters -/

/-- The raw values of a filter body: a list, or a single value that stands for a list of one. What
counts as nothing is no value. -/
def rawValues (body : Value) : List Value :=
  match body.member "values" with
  | .list items => items
  | value => if value.isVoid then [] else [value]

/-- The filter of one member of an entry. -/
def parseMember (property : String) (body : Value) : Except Failure Filter :=
  match body with
  | .object _ => do
    let values := rawValues body
    let operator ← parseOperator property (body.member "operator") values
    let value ← typedValue property operator values
    return ⟨property, operator, value⟩
  | _ => .error (.parse (.bodyShape property))

/-- The filters of one entry, in the order of its members. -/
def parseEntry : Value → Except Failure (List Filter)
  | .object fields => fields.mapM fun (property, body) => parseMember property body
  | _ => .error (.parse .filterShape)

/-- The filters of a compact form. -/
def parseFilters (raw : Value) : Except Failure FilterSet := do
  let entries ← entries "filters" raw
  let filters ← entries.mapM parseEntry
  return ⟨filters.flatten⟩

/-! ### Writing -/

/-- A number in the compact form: a whole one without a point. -/
def numberText (number : Binary64) : String :=
  match number.toInt? with
  | some whole => integerText whole
  | none => number.text

/-- The words of a value in the compact form. -/
def valueTexts : FilterValue → List String
  | .currentUser => [placeholder]
  | .truth value => [if value then "t" else "f"]
  | .date date => [date.text]
  | .dates first last => [first.text, last.text]
  | .number number => [numberText number]
  | value => value.toTexts

/-- One filter in the compact form. -/
def filterValue (filter : Filter) : Value :=
  .object [(filter.property,
    .object [("operator", .text filter.operator.code),
      ("values", .texts (valueTexts filter.value))])]

/-- Filters in the compact form. -/
def filtersValue (filters : FilterSet) : Value :=
  .list (filters.filters.map filterValue)

end WorkQuery.CompactForm
