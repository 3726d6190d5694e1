/-
This file tells which queries the store takes. A statement is prepared with named places for its
bound values, so a text that looks like such a place cannot be prepared; then it is encoded, which
no half of a surrogate pair survives; and what arrives must not be cut short or grow beyond the
bounds of the store. `fault?` gives the first of these that stands in the way.
-/

import WorkQuery.Failure
import WorkQuery.Sql.Statement
import WorkQuery.Text.Blank

namespace WorkQuery.Sql

open Text

/-! ### Places -/

/-- How a text that looks like a place goes on after its opening: it is closed before the end of
the conditions, left open, or no place after all. -/
inductive PlaceEnd
  | closed
  | unclosed
  | absent
deriving DecidableEq, Repr

/-- The end of a place `%(name)s`, for the text after its parenthesis. A name that is left open is
closed by the places of the bound values, which stand behind the conditions. -/
def valuePlace (text : List Char) : PlaceEnd :=
  match text.dropWhile (· != ')') with
  | [] => .unclosed
  | _ :: 's' :: _ => if text.head? = some ')' then .absent else .closed
  | _ => .absent

/-- Whether the line that a text starts with closes a note. -/
def closesNote : List Char → Bool
  | [] => false
  | character :: rest =>
    "~~]".toList.isPrefixOf (character :: rest) || (character != '\n' && closesNote rest)

/-- Whether a text starts with a note between doubled tildes, closed by a bracket. -/
def startsWithNote : List Char → Bool
  | '~' :: '~' :: first :: rest => first != '\n' && closesNote rest
  | _ => false

/-- The end of a place `__[POSTCOMPILE_name]` for a list of values, for the text after its
underscore. The name may be followed by a note. -/
def listPlace (text : List Char) : PlaceEnd :=
  let name := text.takeWhile fun character => !isSeparator character
  let noted := (List.range name.length).any fun position =>
    startsWithNote (text.drop (position + 1))
  if (name.drop 1).contains ']' || noted then .closed else .absent

/-- What a place for a list of values starts with. -/
def listOpening : List Char := "__[POSTCOMPILE_".toList

/-- The ends of all that looks like a place in a text. -/
def placeEnds : List Char → List PlaceEnd
  | [] => []
  | character :: rest =>
    let text := character :: rest
    if "%(".toList.isPrefixOf text then valuePlace (text.drop 2) :: placeEnds rest
    else if listOpening.isPrefixOf text then
      listPlace (text.drop listOpening.length) :: placeEnds rest
    else placeEnds rest

/-! ### Encoding -/

/-- The first run of halves among symbols: the places of its ends and the code of its first. -/
def firstHalves? (symbols : List Symbol) : Option (Nat × Nat × Nat) :=
  let before := symbols.takeWhile fun symbol => symbol matches .character _
  let run := (symbols.drop before.length).takeWhile fun symbol => symbol matches .half _
  run.head?.map fun half => (before.length, before.length + run.length - 1, half.code)

/-! ### Bounds -/

/-- The height of a condition as a tree of expressions. -/
def Condition.height : Condition → Nat
  | never => 2
  | member _ true _ => 4
  | _ => 3

/-- The height of the conditions once they are joined one after the other, and then with the
conditions of the three joined tables. -/
def joinedHeight : List Condition → Nat
  | [] => 0
  | first :: rest =>
    rest.foldl (fun height condition => max height condition.height + 1) first.height + 3

/-- The greatest height of an expression. -/
def greatestHeight : Nat := 1000

/-- The greatest number of sort keys. -/
def greatestKeyCount : Nat := 2000

/-! ### Preparation -/

/-- Whether the store can run a condition at all. Searches in letters of any case and days counted
from today are not in its language. -/
def Condition.isRunnable : Condition → Bool
  | .search .. | .thisWeek _ | .relative .. => false
  | _ => true

/-- Whether the store takes conditions and sort keys that have been encoded. -/
def isAccepted (conditions : List Condition) (keys : List SortKey) : Bool :=
  conditions.all Condition.isRunnable && !(whereText conditions).toList.contains '\x00' &&
    joinedHeight conditions ≤ greatestHeight && keys.length ≤ greatestKeyCount

/-- Why the store does not take a query, if it does not. The statement that counts goes first. -/
def fault? (conditions : List Condition) (keys : List SortKey) : Option Failure :=
  let text := whereText conditions
  let ends := placeEnds text.toList
  if ends.contains .closed then some .database
  else
    match firstHalves? (symbols (countText text).toList) with
    | some (first, last, code) => some (.unencodable first last code)
    | none =>
      if ends.contains .unclosed || !isAccepted conditions keys then some .database else none

end WorkQuery.Sql
