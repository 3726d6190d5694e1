/-
This file gives joins, conditions and sort keys their meaning. A join adds the rows of a lookup
table that pass its tests, and keeps a row for which there are none. A condition holds, fails, or is
unknown because a value is missing, and a row is selected only where every condition holds. Values
are compared the way the store compares them: numbers by value, texts by code point, numbers before
texts; a literal is turned into a text for a column of texts and into a number, if it reads as one,
for any other column. Days and moments are texts in the store.
-/

import WorkQuery.Number.Reading
import WorkQuery.Sql.Condition
import WorkQuery.Sql.Join

namespace WorkQuery.Sql

open Calendar Number

/-! ### Stored values -/

/-- A value as the store compares it. -/
inductive Stored
  | integer (value : Int)
  | real (value : Binary64)
  | text (value : String)
deriving DecidableEq

namespace Stored

/-- How two stored values compare. What is no number is equal to nothing and is never stored. -/
def compare? : Stored → Stored → Option Ordering
  | integer left, integer right => some (compare left right)
  | integer left, real right => compareReal left right
  | real left, integer right => (compareReal right left).map Ordering.swap
  | real left, real right => left.compare? right
  | text left, text right => some (compare left right)
  | text _, _ => some .gt
  | _, text _ => some .lt
where
  /-- How an integer compares with a number: exactly, without rounding the integer. -/
  compareReal (left : Int) (right : Binary64) : Option Ordering :=
    match right with
    | .notANumber => none
    | .infinite negative => some (if negative then .gt else .lt)
    | .finite .. =>
      right.ratio?.map fun (numerator, denominator) => compare (left * denominator) numerator

/-- The integer as it is stored: a number once it needs more than sixty-four bits. -/
def ofInteger (value : Int) : Stored :=
  if Schema.fitsWord value then integer value
  else real (.ofRatio (decide (value < 0)) value.natAbs 1)

/-- Blanks that may stand around a number in a text. -/
def isBlank (character : Char) : Bool :=
  character == ' ' || (0x09 ≤ character.toNat && character.toNat ≤ 0x0D)

/-- The number that a text reads as, in full. -/
def numberOfText? (written : String) : Option Stored := do
  let (negative, digits) := splitSign (Text.trim isBlank written.toList)
  let (magnitude, exponent) ← numeral? digits
  if digits.all Char.isDigit then return ofInteger (signed negative magnitude)
  else return real (.ofDecimal negative magnitude exponent)

/-- A stored value for a column of texts. -/
def asText : Stored → Stored
  | integer value => text (integerText value)
  | real value => text value.storedText
  | text value => text value

/-- A stored value for a column of numbers, days or moments. -/
def asNumber : Stored → Stored
  | text value => (numberOfText? value).getD (text value)
  | value => value

end Stored

/-- The stored value of a cell; none if the cell is empty. -/
def storedCell? : Cell → Option Stored
  | .null => none
  | .integer value => some (.integer value)
  | .real value => some (.real value)
  | .text value => some (.text value)
  | .day date => some (.text date.text)
  | .moment moment => some (.text moment.storedText)
  | .truth value => some (.integer (if value then 1 else 0))

/-- The stored value of a literal, before it meets a column. -/
def storedLiteral : Literal → Stored
  | .integer value => .ofInteger value
  | .decimal value => .real value
  | .text value => .text value
  | .truth value => .integer (if value then 1 else 0)

/-- The stored value of a literal that is compared with a column. -/
def literalFor (column : Reference) (literal : Literal) : Stored :=
  if column.isTextual then (storedLiteral literal).asText else (storedLiteral literal).asNumber

/-! ### Joined rows -/

namespace Lookup

/-- The rows that a lookup table is made of. -/
def Row : Lookup → Type
  | statuses => Status
  | types => TypeEntry
  | enumerations => Enumeration

/-- The rows of a lookup table. -/
def rows (tables : Tables) : (lookup : Lookup) → List lookup.Row
  | statuses => tables.statuses
  | types => tables.types
  | enumerations => tables.enumerations

/-- The number of a row. -/
def key : (lookup : Lookup) → lookup.Row → Int
  | statuses => Status.id
  | types => TypeEntry.id
  | enumerations => Enumeration.id

/-- The enumeration that a row belongs to; the rows of the other tables belong to none. -/
def family? : (lookup : Lookup) → lookup.Row → Option String
  | enumerations, entry => some (Enumeration.family entry)
  | _, _ => none

end Lookup

/-- A work package with the lookup rows joined to it. -/
structure JoinedRow where
  item : WorkPackage
  status : Option Status
  kind : Option TypeEntry
  priority : Option Enumeration

namespace JoinedRow

/-- A work package to which nothing is joined yet. -/
def ofItem (item : WorkPackage) : JoinedRow := ⟨item, none, none, none⟩

/-- The row with what has been found for it in a lookup table. -/
def withFound (row : JoinedRow) : (lookup : Lookup) → Option lookup.Row → JoinedRow
  | .statuses, found => { row with status := found }
  | .types, found => { row with kind := found }
  | .enumerations, found => { row with priority := found }

end JoinedRow

/-- Every row of a left table with each of its matches, or alone if it has none. -/
def leftJoin {Left Right : Type} (holds : Left → Right → Bool) (lefts : List Left)
    (rights : List Right) : List (Left × Option Right) :=
  lefts.flatMap fun left =>
    match rights.filter (holds left) with
    | [] => [(left, none)]
    | found => found.map fun right => (left, some right)

/-- Whether a row of a lookup table passes a test for a work package. What is empty is equal to
nothing. -/
def JoinTest.holds (item : WorkPackage) (lookup : Lookup) (row : lookup.Row) : JoinTest → Bool
  | key field =>
    ((storedCell? (field.cell item)).bind fun value =>
      value.compare? (.integer (lookup.key row))) == some .eq
  | family name => lookup.family? row == some name

/-- Whether a row of the lookup table is joined to a row. -/
def Join.holds (join : Join) (row : JoinedRow) (other : join.lookup.Row) : Bool :=
  join.tests.all (JoinTest.holds row.item join.lookup other)

/-- Rows with what a join finds for them. -/
def Join.joined (tables : Tables) (rows : List JoinedRow) (join : Join) : List JoinedRow :=
  (leftJoin join.holds rows (join.lookup.rows tables)).map fun (row, found) =>
    row.withFound join.lookup found

/-- The rows that joins make of the work packages, one join after the other. -/
def joinAll (tables : Tables) (joins : List Join) : List JoinedRow :=
  joins.foldl (Join.joined tables) (tables.workPackages.map JoinedRow.ofItem)

/-- The joined rows of the tables. -/
def joinedRows (tables : Tables) : List JoinedRow :=
  joinAll tables joins

/-- The content of a column in a joined row. -/
def Reference.cell (row : JoinedRow) : Reference → Cell
  | .item field => field.cell row.item
  | .statusName => .ofOption (fun status => .text status.name) row.status
  | .statusIsClosed => .ofOption (fun status => .truth status.isClosed) row.status
  | .statusPosition => .ofOption .integer (row.status.bind Status.position)
  | .typeName => .ofOption (fun kind => .text kind.name) row.kind
  | .typePosition => .ofOption .integer (row.kind.bind TypeEntry.position)
  | .priorityName => .ofOption (fun entry => .text entry.name) row.priority
  | .priorityPosition => .ofOption .integer (row.priority.bind Enumeration.position)

/-! ### Conditions -/

/-- Whether an outcome of comparing satisfies a comparison. -/
def Comparison.accepts : Comparison → Ordering → Bool
  | equal, ordering => ordering == .eq
  | unequal, ordering => ordering != .eq
  | less, ordering => ordering == .lt
  | lessOrEqual, ordering => ordering != .gt
  | greater, ordering => ordering == .gt
  | greaterOrEqual, ordering => ordering != .lt

/-- The truth of a comparison of a column with a literal, unknown for an empty cell. -/
def compareCell (row : JoinedRow) (column : Reference) (comparison : Comparison)
    (literal : Stored) : Option Bool := do
  let value ← storedCell? (column.cell row)
  let ordering ← value.compare? literal
  return comparison.accepts ordering

/-- The conjunction of two truths of which either may be unknown. -/
def bothHold : Option Bool → Option Bool → Option Bool
  | some false, _ => some false
  | _, some false => some false
  | some true, some true => some true
  | _, _ => none

/-- The disjunction of two truths of which either may be unknown. -/
def eitherHolds : Option Bool → Option Bool → Option Bool
  | some true, _ => some true
  | _, some true => some true
  | some false, some false => some false
  | _, _ => none

@[simp] theorem bothHold_some (left right : Bool) :
    bothHold (some left) (some right) = some (left && right) := by
  cases left <;> cases right <;> rfl

@[simp] theorem eitherHolds_some (left right : Bool) :
    eitherHolds (some left) (some right) = some (left || right) := by
  cases left <;> cases right <;> rfl

/-- The truth of a condition in a joined row on a day, for the conditions that the store can run;
the others are unknown. -/
def Condition.holds? (today : Date) (row : JoinedRow) : Condition → Option Bool
  | .never => some false
  | .compare column comparison literal =>
    compareCell row column comparison (literalFor column literal)
  | .member column negated literals =>
    let found := literals.foldr
      (fun literal rest =>
        eitherHolds (compareCell row column .equal (literalFor column literal)) rest)
      (some false)
    if negated then found.map not else found
  | .between column first last =>
    bothHold (compareCell row column .greaterOrEqual (literalFor column (.text first.text)))
      (compareCell row column .lessOrEqual (literalFor column (.text last.text)))
  | .null column negated => some ((storedCell? (column.cell row)).isNone != negated)
  | .today column => compareCell row column .equal (.text today.text)
  | .search .. | .thisWeek _ | .relative .. => none

/-- Whether a row is selected by conditions, all of which have to hold. -/
def selects (today : Date) (conditions : List Condition) (row : JoinedRow) : Bool :=
  conditions.all fun condition => condition.holds? today row == some true

/-! ### Orders -/

/-- How two cells compare in ascending order: those without a value come last. -/
def compareAscending (left right : Option Stored) : Ordering :=
  match left, right with
  | none, none => .eq
  | none, some _ => .gt
  | some _, none => .lt
  | some left, some right => (left.compare? right).getD .eq

/-- How two rows compare by one sort key. -/
def SortKey.compareRows (key : SortKey) (left right : JoinedRow) : Ordering :=
  let ordering := compareAscending (storedCell? (key.column.cell left))
    (storedCell? (key.column.cell right))
  match key.direction with
  | .ascending => ordering
  | .descending => ordering.swap

/-- How two rows compare by sort keys, the first that tells them apart deciding. -/
def compareRows (keys : List SortKey) (left right : JoinedRow) : Ordering :=
  keys.foldr (fun key rest => (key.compareRows left right).then rest) .eq

/-- The sort key in use where a query has none. -/
def standardKey : SortKey := ⟨.item .id, .descending⟩

/-- Rows in the order of sort keys; rows that no key tells apart keep their order. -/
def sortRows (keys : List SortKey) (rows : List JoinedRow) : List JoinedRow :=
  let keys := if keys.isEmpty then [standardKey] else keys
  rows.mergeSort fun left right => compareRows keys left right != .gt

end WorkQuery.Sql
