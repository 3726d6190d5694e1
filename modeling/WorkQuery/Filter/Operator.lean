/-
This file holds the operators of filters. An operator is either of a fixed kind or compares a day
with today, in which case it carries a signed number of days; no other combination can be written
down. Each operator has a short code, under which queries are stored and sent. Codes are read
leniently: two older spellings are known, and a day count may use the digits of any script, carry
a plus sign and be followed by one line break.
-/

import WorkQuery.Schema.Checked
import WorkQuery.Schema.Scalar

namespace WorkQuery

open Json Number Schema Text

/-! ### Kinds -/

/-- The kinds of operators that carry no number of days. -/
inductive FixedKind
  | equals
  | notEquals
  | contains
  | notContains
  | startsWith
  | endsWith
  | greaterThan
  | greaterOrEqual
  | lessThan
  | lessOrEqual
  | between
  | isNull
  | isNotNull
  | today
  | thisWeek
  | currentUserEquals
deriving DecidableEq, Repr

/-- The kinds of operators that compare with a day some days away from today. -/
inductive RelativeKind
  | daysAgo
  | daysFromNow
  | lessThanDaysAgo
  | moreThanDaysAgo
  | lessThanDaysFromNow
  | moreThanDaysFromNow
deriving DecidableEq, Repr

/-- The kind of an operator. -/
inductive OperatorKind
  | fixed (kind : FixedKind)
  | relative (kind : RelativeKind)
deriving DecidableEq, Repr

namespace FixedKind

/-- Every fixed kind. -/
def all : List FixedKind :=
  [equals, notEquals, contains, notContains, startsWith, endsWith, greaterThan, greaterOrEqual,
   lessThan, lessOrEqual, between, isNull, isNotNull, today, thisWeek, currentUserEquals]

/-- The name of a fixed kind. -/
def name : FixedKind → String
  | equals => "equals"
  | notEquals => "not_equals"
  | contains => "contains"
  | notContains => "not_contains"
  | startsWith => "starts_with"
  | endsWith => "ends_with"
  | greaterThan => "greater_than"
  | greaterOrEqual => "greater_or_equal"
  | lessThan => "less_than"
  | lessOrEqual => "less_or_equal"
  | between => "between"
  | isNull => "is_null"
  | isNotNull => "is_not_null"
  | today => "today"
  | thisWeek => "this_week"
  | currentUserEquals => "current_user_equals"

/-- The code of a fixed kind. Equality with the current user shares the code of plain equality; the
value beside the operator tells the two apart. -/
def code : FixedKind → String
  | equals => "="
  | notEquals => "!"
  | contains => "~"
  | notContains => "!~"
  | startsWith => "**"
  | endsWith => "*~"
  | greaterThan => ">"
  | greaterOrEqual => ">="
  | lessThan => "<"
  | lessOrEqual => "<="
  | between => "<>d"
  | isNull => "*"
  | isNotNull => "!*"
  | today => "t"
  | thisWeek => "w"
  | currentUserEquals => "="

/-- The kind that a code stands for: the first with that code, or one of the two that have an older
spelling. -/
def ofCode? (code : String) : Option FixedKind :=
  if code = "o" then some isNull
  else if code = "c" then some isNotNull
  else all.find? fun kind => kind.code == code

/-- Whether a filter of this kind needs a value. -/
def requiresValue : FixedKind → Bool
  | isNull | isNotNull | today | thisWeek | currentUserEquals => false
  | _ => true

end FixedKind

namespace RelativeKind

/-- Every relative kind. -/
def all : List RelativeKind :=
  [daysAgo, daysFromNow, lessThanDaysAgo, moreThanDaysAgo, lessThanDaysFromNow,
   moreThanDaysFromNow]

/-- The name of a relative kind. -/
def name : RelativeKind → String
  | daysAgo => "days_ago"
  | daysFromNow => "days_from_now"
  | lessThanDaysAgo => "less_than_days_ago"
  | moreThanDaysAgo => "more_than_days_ago"
  | lessThanDaysFromNow => "less_than_days_from_now"
  | moreThanDaysFromNow => "more_than_days_from_now"

/-- The mark that the code of a relative kind begins with; the number of days follows it. -/
def mark : RelativeKind → String
  | daysAgo => "t-"
  | daysFromNow => "t+"
  | lessThanDaysAgo => "<t-"
  | moreThanDaysAgo => ">t-"
  | lessThanDaysFromNow => "<t+"
  | moreThanDaysFromNow => ">t+"

/-- The kind whose mark a code begins with. -/
def ofMark? (code : List Char) : Option RelativeKind :=
  all.find? fun kind => kind.mark.toList.isPrefixOf code

end RelativeKind

namespace OperatorKind

/-- The name of a kind. -/
def name : OperatorKind → String
  | fixed kind => kind.name
  | relative kind => kind.name

/-- Every kind. -/
def all : List OperatorKind :=
  FixedKind.all.map fixed ++ RelativeKind.all.map relative

/-- The kind of a name. -/
def ofName? (name : String) : Option OperatorKind :=
  all.find? fun kind => kind.name == name

end OperatorKind

/-! ### Operators -/

/-- A filter operator. -/
inductive Operator
  | fixed (kind : FixedKind)
  | relative (kind : RelativeKind) (days : Int)
deriving DecidableEq, Repr

namespace Operator

/-- The kind of an operator. -/
def kind : Operator → OperatorKind
  | fixed kind => .fixed kind
  | relative kind _ => .relative kind

/-- The number of days of an operator that has one. -/
def days? : Operator → Option Int
  | fixed _ => none
  | relative _ days => some days

/-- Whether the operator compares with a day relative to today. -/
def isRelative : Operator → Bool
  | fixed _ => false
  | relative .. => true

/-- Whether a filter with this operator needs a value. -/
def requiresValue : Operator → Bool
  | fixed kind => kind.requiresValue
  | relative .. => true

/-- The code of an operator. -/
def code : Operator → String
  | fixed kind => kind.code
  | relative kind days => kind.mark ++ integerText days

/-- The operator of a kind and an optional number of days, which have to go together. -/
def ofKind : OperatorKind → Option Int → Checked Operator
  | .fixed kind, none => .ok (fixed kind)
  | .fixed kind, some _ => reject (.breach (.daysUnwanted kind.name))
  | .relative kind, some days => .ok (relative kind days)
  | .relative kind, none => reject (.breach (.daysNeeded kind.name))

/-! ### Reading codes -/

/-- The characters without one line break at the end. -/
def withoutLineBreak (characters : List Char) : List Char :=
  if characters.getLast? = some '\n' then characters.dropLast else characters

/-- The number of days after a mark: an optional sign and at least one digit. A count with too many
digits is a fault; anything else that is no count is none. -/
def readDays (characters : List Char) : Except ConversionFault (Option Int) :=
  let (negative, digits) := splitSign (withoutLineBreak characters)
  match digits.mapM decimalDigit? with
  | none => .ok none
  | some [] => .ok none
  | some values =>
    if digitLimit < values.length then
      .error (.text (String.ofList characters) (.tooManyDigits values.length))
    else .ok (some (signed negative (ofDigits values)))

/-- The operator that a code stands for, if it stands for one. -/
def parse (code : String) : Except ConversionFault (Option Operator) :=
  match FixedKind.ofCode? code with
  | some kind => .ok (some (fixed kind))
  | none =>
    match RelativeKind.ofMark? code.toList with
    | none => .ok none
    | some kind =>
      (readDays (code.toList.drop kind.mark.length)).map fun days? =>
        days?.map (relative kind)

/-- The operator that a value stands for, if it is a code that stands for one. Anything void is no
code; what is neither void nor a text cannot be looked at. -/
def ofCode (value : Value) : Checked (Option Operator) :=
  match value with
  | .text code => (parse code).mapError .conversion
  | .list _ => .error (.notKey "list")
  | .object _ => .error (.notKey "dict")
  | value => if value.isVoid then .ok none else .error (.notText value.kindName)

/-! ### Schema -/

/-- An operator given by its kind and days. -/
def ofRecord (value : Value) : Checked Operator := do
  let fields ← record value
  let (kind, days?) ← both
    ((required fields "kind" (memberOf OperatorKind.ofName?)).map Prod.mk)
    (optional fields "days" none (nullable integer))
  ofKind kind days?

/-- An operator given by its code, or by its kind and days. -/
def ofValue : Value → Checked Operator
  | .text code =>
    match parse code with
    | .ok (some operator) => .ok operator
    | .ok none => reject (.breach (.unknownOperator code))
    | .error fault => reject (.breach (.conversion fault))
  | value => ofRecord value

/-! ### Small facts -/

theorem code_relative (kind : RelativeKind) (days : Int) :
    (relative kind days).code = kind.mark ++ integerText days := rfl

end Operator

end WorkQuery
