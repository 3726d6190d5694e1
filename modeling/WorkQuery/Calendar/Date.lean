/-
This file holds the days of the Gregorian calendar from year 1 to year 9999. A date carries the
proof that its day exists; `ordinal` numbers the days from the first of January of year 1, and
`ofOrdinal?` finds the day of a number. A date is written as year, month and day with hyphens, and
read from that form, from the same without hyphens, or from a year with a week and a weekday.
-/

import WorkQuery.Number.Reading

namespace WorkQuery.Calendar

open Number

/-! ### Days -/

/-- Whether a year has a leap day. -/
def isLeap (year : Nat) : Bool :=
  year % 4 == 0 && (year % 100 != 0 || year % 400 == 0)

/-- The lengths of the months of a year, in order. -/
def monthLengths (year : Nat) : List Nat :=
  [31, if isLeap year then 29 else 28, 31, 30, 31, 30, 31, 31, 30, 31, 30, 31]

/-- The length of a month, zero if there is no such month. -/
def monthLength (year month : Nat) : Nat :=
  if month = 0 then 0 else (monthLengths year).getD (month - 1) 0

/-- Whether year, month and day name a day of the calendar. -/
def IsDay (year month day : Nat) : Prop :=
  1 ≤ year ∧ year ≤ 9999 ∧ 1 ≤ day ∧ day ≤ monthLength year month

instance (year month day : Nat) : Decidable (IsDay year month day) :=
  inferInstanceAs (Decidable (_ ∧ _))

/-- A day of the calendar. -/
structure Date where
  year : Nat
  month : Nat
  day : Nat
  isDay : IsDay year month day
deriving DecidableEq

namespace Date

/-- The day of a year, month and day, if it exists. -/
def of? (year month day : Nat) : Option Date :=
  if isDay : IsDay year month day then some ⟨year, month, day, isDay⟩ else none

theorem of?_fields (date : Date) : of? date.year date.month date.day = some date := by
  simp [of?, date.isDay]

/-! ### Counting days -/

/-- The number of days before a year begins. -/
def daysBeforeYear (year : Nat) : Nat :=
  let past := year - 1
  past * 365 + past / 4 - past / 100 + past / 400

/-- The number of a day, counted from one for the first day of year 1. -/
def ordinal (date : Date) : Nat :=
  ((monthLengths date.year).take (date.month - 1)).foldl (· + ·) (daysBeforeYear date.year)
    + date.day

/-- The month and day at a distance of whole days from the start of a list of months. -/
def monthAndDay (month : Nat) : List Nat → Nat → Nat × Nat
  | [], offset => (month, offset + 1)
  | length :: rest, offset =>
    if offset < length then (month, offset + 1) else monthAndDay (month + 1) rest (offset - length)

/-- The day with a number, if it lies before year 10000. Whole periods of four hundred, a hundred,
four and single years are taken off first; the last year of a period may be a day longer. -/
def ofOrdinal? (number : Nat) : Option Date :=
  if number = 0 then none
  else
    let days := number - 1
    let fourCenturies := days / 146097
    let days := days % 146097
    let centuries := min 3 (days / 36524)
    let days := days - centuries * 36524
    let fourYears := days / 1461
    let days := days % 1461
    let years := min 3 (days / 365)
    let days := days - years * 365
    let year := fourCenturies * 400 + centuries * 100 + fourYears * 4 + years + 1
    let (month, day) := monthAndDay 1 (monthLengths year) days
    of? year month day

/-- The weekday of the first of January, counted from zero for Monday. -/
def firstWeekday (year : Nat) : Nat :=
  daysBeforeYear year % 7

/-- The day of a weekday, counted from one for Monday, in a numbered week of a year. The first week
is the one that holds the first Thursday; there is a fifty-third only in a year that has
fifty-three Thursdays. -/
def ofWeek? (year week weekday : Nat) : Option Date :=
  let first := firstWeekday year
  let weeks := if first = 3 ∨ (first = 2 ∧ isLeap year) then 53 else 52
  if 1 ≤ year ∧ 1 ≤ week ∧ week ≤ weeks ∧ 1 ≤ weekday ∧ weekday ≤ 7 then
    let newYear : Int := daysBeforeYear year + 1
    let firstMonday := if first ≤ 3 then newYear - first else newYear + 7 - first
    ofOrdinal? (firstMonday + 7 * (week - 1) + (weekday - 1)).toNat
  else none

/-! ### Texts -/

/-- A date as year, month and day with hyphens. -/
def text (date : Date) : String :=
  paddedText 4 date.year ++ "-" ++ paddedText 2 date.month ++ "-" ++ paddedText 2 date.day

/-- The number that the first `count` characters write in ASCII digits, and the characters after
them. -/
def fixedNumber? (count : Nat) (characters : List Char) : Option (Nat × List Char) :=
  let digits := characters.take count
  if digits.length = count ∧ digits.all Char.isDigit then
    some (digitsValue digits, characters.drop count)
  else none

/-- The characters after a hyphen where one is wanted. -/
def afterHyphen? (wanted : Bool) (characters : List Char) : Option (List Char) :=
  match wanted, characters with
  | false, _ => some characters
  | true, '-' :: rest => some rest
  | true, _ => none

/-- The day of a week form, after the letter. The weekday may be left out, which means Monday. -/
def readWeek? (year : Nat) (hyphens : Bool) (characters : List Char) : Option Date := do
  let (week, rest) ← fixedNumber? 2 characters
  if rest.isEmpty then ofWeek? year week 1
  else
    let rest ← afterHyphen? hyphens rest
    let (weekday, _) ← fixedNumber? 1 rest
    ofWeek? year week weekday

/-- The day that a text writes: `2024-02-29`, `20240229`, `2024-W09-4`, `2024W094`, or a week form
without its weekday. The text has the length in bytes of one of these forms, not necessarily of its
own: nothing that stands after the day is looked at. -/
def read? (text : String) : Option Date := do
  guard (text.utf8ByteSize = 7 ∨ text.utf8ByteSize = 8 ∨ text.utf8ByteSize = 10)
  let (year, rest) ← fixedNumber? 4 text.toList
  let hyphens := rest.head? = some '-'
  let rest ← afterHyphen? hyphens rest
  match rest with
  | 'W' :: rest => readWeek? year hyphens rest
  | _ =>
    let (month, rest) ← fixedNumber? 2 rest
    let rest ← afterHyphen? hyphens rest
    let (day, _) ← fixedNumber? 2 rest
    of? year month day

end Date

end WorkQuery.Calendar
