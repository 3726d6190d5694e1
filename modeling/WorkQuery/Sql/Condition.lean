/-
This file holds the conditions that filters become. A condition is kept as data, from which both
its text and its meaning are taken; `render` writes it.
-/

import WorkQuery.Sql.Literal
import WorkQuery.Sql.Reference
import WorkQuery.Sort.Order

namespace WorkQuery.Sql

open Calendar Number

/-! ### Comparisons and patterns -/

/-- How two values are compared. -/
inductive Comparison
  | equal
  | unequal
  | less
  | lessOrEqual
  | greater
  | greaterOrEqual
deriving DecidableEq, Repr

/-- The sign of a comparison. -/
def Comparison.symbol : Comparison → String
  | equal => "="
  | unequal => "!="
  | less => "<"
  | lessOrEqual => "<="
  | greater => ">"
  | greaterOrEqual => ">="

/-- Where a searched text has to stand. -/
inductive Placement
  | anywhere
  | atStart
  | atEnd
deriving DecidableEq, Repr

/-- A text with the wildcards of a place around it. A percent sign stands for any characters. -/
def Placement.withWildcards (placement : Placement) (text : String) : String :=
  match placement with
  | anywhere => "%" ++ text ++ "%"
  | atStart => text ++ "%"
  | atEnd => "%" ++ text

/-- The pattern of a text at a place, outside of any literal. -/
def Placement.pattern (placement : Placement) (text : String) : String :=
  placement.withWildcards (literalPattern text)

/-- A pattern as a literal: the wildcards of the place stand around the escaped text. -/
theorem quote_pattern (placement : Placement) (text : String) :
    quote (placement.pattern text) =
      "'" ++ placement.withWildcards (escapePattern text) ++ "'" := by
  refine String.toList_inj.mp ?_
  cases placement <;>
    simp [quote, toList_escapeText, Placement.pattern, Placement.withWildcards, escapePattern,
      escapedCharacter]

/-- A side of today. -/
inductive Side
  | before
  | after
deriving DecidableEq, Repr

/-- The sign with which days on a side of today are counted. -/
def Side.symbol : Side → String
  | before => "-"
  | after => "+"

/-! ### Conditions -/

/-- The condition of one filter. -/
inductive Condition
  | never
  | compare (column : Reference) (comparison : Comparison) (literal : Literal)
  | member (column : Reference) (negated : Bool) (literals : List Literal)
  | search (column : Reference) (negated : Bool) (placement : Placement) (text : String)
  | between (column : Reference) (first last : Date)
  | null (column : Reference) (negated : Bool)
  | today (column : Reference)
  | thisWeek (column : Reference)
  | relative (column : Reference) (comparison : Comparison) (side : Side) (days : Int)
deriving DecidableEq

/-- A condition as statements write it. -/
def Condition.render : Condition → String
  | never => "1 = 0"
  | compare column comparison literal =>
    column.text ++ " " ++ comparison.symbol ++ " " ++ literal.render
  | member column negated literals =>
    column.text ++ (if negated then " NOT IN " else " IN ") ++
      "(" ++ ", ".intercalate (literals.map Literal.render) ++ ")"
  | search column negated placement text =>
    column.text ++ (if negated then " NOT ILIKE " else " ILIKE ") ++
      ("'" ++ placement.withWildcards (escapePattern text) ++ "'")
  | between column first last =>
    column.text ++ " BETWEEN " ++ quote first.text ++ " AND " ++ quote last.text
  | null column negated => column.text ++ (if negated then " IS NOT NULL" else " IS NULL")
  | today column => column.text ++ " = CURRENT_DATE"
  | thisWeek column =>
    column.text ++ " >= date_trunc('week', CURRENT_DATE) AND " ++ column.text ++
      " < date_trunc('week', CURRENT_DATE) + interval '1 week'"
  | relative column comparison side days =>
    column.text ++ " " ++ comparison.symbol ++ " CURRENT_DATE " ++ side.symbol ++ " interval '" ++
      integerText days ++ " days'"

/-! ### Sort keys -/

/-- A column to sort by. Rows without a value come last in ascending order and first in descending
order. -/
structure SortKey where
  column : Reference
  direction : Direction
deriving DecidableEq

/-- A sort key as statements write it. -/
def SortKey.render (key : SortKey) : String :=
  match key.direction with
  | .ascending => key.column.text ++ " ASC NULLS LAST"
  | .descending => key.column.text ++ " DESC NULLS FIRST"

end WorkQuery.Sql
