/-
This file holds the literals of conditions and the escaping of texts in them. A text stands between
single quotes and doubles each quote that it holds; inside a pattern, the wildcards and the
backslash are escaped by a backslash first, so that they stand for themselves.
-/

import WorkQuery.Filter.Value

namespace WorkQuery.Sql

open Number

/-! ### Escaping -/

/-- One character of a text literal. -/
def escapedCharacter (character : Char) : List Char :=
  if character = '\'' then ['\'', '\''] else [character]

/-- One character of a pattern, before it becomes part of a text literal. -/
def literalCharacter (character : Char) : List Char :=
  if character = '\\' ∨ character = '%' ∨ character = '_' then ['\\', character]
  else [character]

/-- A text as it stands between the quotes of a literal. -/
def escapeText (text : String) : String :=
  String.ofList (text.toList.flatMap escapedCharacter)

/-- A text as it stands in a pattern, outside of any literal: each character matches itself. -/
def literalPattern (text : String) : String :=
  String.ofList (text.toList.flatMap literalCharacter)

/-- A text as it stands in a pattern between the quotes of a literal. -/
def escapePattern (text : String) : String :=
  escapeText (literalPattern text)

/-- A text as a literal. -/
def quote (text : String) : String :=
  "'" ++ escapeText text ++ "'"

/-! ### Literals -/

/-- A literal of a condition. -/
inductive Literal
  | integer (value : Int)
  | decimal (value : Binary64)
  | text (value : String)
  | truth (value : Bool)
deriving DecidableEq

/-- A literal as statements write it. -/
def Literal.render : Literal → String
  | .integer value => integerText value
  | .decimal value => value.text
  | .text value => quote value
  | .truth value => if value then "true" else "false"

/-- The literal of a number. A whole number is written without a point, and what is not finite has
no literal. -/
def numberLiteral? (number : Binary64) : Option Literal :=
  if number.isFinite then
    match number.toInt? with
    | some whole => some (.integer whole)
    | none => some (.decimal number)
  else none

/-- The literals of a filter value, one for each of its elements. The placeholder for the current
user has a literal only if there is one. -/
def literals (user : Option Int) : FilterValue → List Literal
  | .id value => [.integer value]
  | .ids values => values.map .integer
  | .text value => [.text value]
  | .texts values => values.map .text
  | .truth value => [.truth value]
  | .date date => [.text date.text]
  | .dates first last => [.text first.text, .text last.text]
  | .number number => (numberLiteral? number).toList
  | .currentUser => (user.map .integer).toList
  | .absent => []

/-! ### Small facts -/

theorem toList_escapeText (text : String) :
    (escapeText text).toList = text.toList.flatMap escapedCharacter := by
  simp [escapeText]

end WorkQuery.Sql
