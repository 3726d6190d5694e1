/-
This file holds moments: a day with a time of day down to the microsecond, without a zone. A moment
is written in two ways: with the letter `T` and only as many places as needed in answers, and with
a blank and always six places in the tables, where the order of the texts is the order in time.
-/

import WorkQuery.Calendar.Date

namespace WorkQuery.Calendar

open Number

/-- Whether the four numbers name a time of day. -/
def IsTime (hour minute second microsecond : Nat) : Prop :=
  hour < 24 ∧ minute < 60 ∧ second < 60 ∧ microsecond < 1000000

instance (hour minute second microsecond : Nat) :
    Decidable (IsTime hour minute second microsecond) :=
  inferInstanceAs (Decidable (_ ∧ _))

/-- A day with a time of day. -/
structure Moment where
  date : Date
  hour : Nat
  minute : Nat
  second : Nat
  microsecond : Nat
  isTime : IsTime hour minute second microsecond
deriving DecidableEq

namespace Moment

/-- The moment of a day and a time, if the time exists. -/
def of? (date : Date) (hour minute second microsecond : Nat) : Option Moment :=
  if isTime : IsTime hour minute second microsecond then
    some ⟨date, hour, minute, second, microsecond, isTime⟩
  else none

/-- Whether the moment is the very start of its day. -/
def isMidnight (moment : Moment) : Bool :=
  moment.hour == 0 && moment.minute == 0 && moment.second == 0 && moment.microsecond == 0

/-! ### Texts -/

/-- Hours, minutes and seconds with colons. -/
def clockText (moment : Moment) : String :=
  paddedText 2 moment.hour ++ ":" ++ paddedText 2 moment.minute ++ ":" ++
    paddedText 2 moment.second

/-- A moment as answers show it; microseconds appear only if there are any. -/
def text (moment : Moment) : String :=
  let fraction :=
    if moment.microsecond = 0 then "" else "." ++ paddedText 6 moment.microsecond
  moment.date.text ++ "T" ++ moment.clockText ++ fraction

/-- A moment as the tables hold it. -/
def storedText (moment : Moment) : String :=
  moment.date.text ++ " " ++ moment.clockText ++ "." ++ paddedText 6 moment.microsecond

/-! ### Reading -/

/-- A fraction of a second in microseconds; places beyond the sixth are cut off. -/
def microseconds (places : List Char) : Nat :=
  let kept := places.take 6
  digitsValue kept * Nat.pow 10 (6 - kept.length)

/-- The seconds and microseconds after hours and minutes, which may both be left out, and the
characters after them. -/
def readSeconds? : List Char → Option (Nat × Nat × List Char)
  | ':' :: characters => do
    let (second, rest) ← Date.fixedNumber? 2 characters
    match rest with
    | mark :: rest' =>
      if mark = '.' ∨ mark = ',' then
        let places := rest'.takeWhile Char.isDigit
        guard !places.isEmpty
        return (second, microseconds places, rest'.dropWhile Char.isDigit)
      else return (second, 0, rest)
    | [] => return (second, 0, [])
  | characters => some (0, 0, characters)

/-- Whether the characters are nothing or a zone: the letter `Z`, or a sign with hours and minutes
of less than a day. -/
def isZone : List Char → Bool
  | [] => true
  | ['Z'] => true
  | ['z'] => true
  | sign :: rest =>
    let offset? := do
      let (hours, rest) ← Date.fixedNumber? 2 rest
      let rest := match rest with
        | ':' :: rest => rest
        | rest => rest
      let (minutes, rest) ← Date.fixedNumber? 2 rest
      guard rest.isEmpty
      return decide (hours < 24 ∧ minutes < 60)
    (sign == '+' || sign == '-' || sign == '\u2212') && offset?.getD false

/-- The year, month and day, unchecked, that the first ten characters write with hyphens, and the
characters after them. -/
def readDay? (characters : List Char) : Option ((Nat × Nat × Nat) × List Char) := do
  let (year, rest) ← Date.fixedNumber? 4 characters
  let rest ← Date.afterHyphen? true rest
  let (month, rest) ← Date.fixedNumber? 2 rest
  let rest ← Date.afterHyphen? true rest
  let (day, rest) ← Date.fixedNumber? 2 rest
  return ((year, month, day), rest)

/-- The moment that a text writes: a day with hyphens, one of `T`, `t`, `_` and a blank, the time,
and a zone that does not change it. -/
def read? (text : String) : Option Moment := do
  let ((year, month, day), rest) ← readDay? text.toList
  let separator :: rest := rest | none
  guard (separator = 'T' ∨ separator = 't' ∨ separator = '_' ∨ separator = ' ')
  let (hour, rest) ← Date.fixedNumber? 2 rest
  let ':' :: rest := rest | none
  let (minute, rest) ← Date.fixedNumber? 2 rest
  let (second, microsecond, rest) ← readSeconds? rest
  guard (isZone rest)
  let date ← Date.of? year month day
  of? date hour minute second microsecond

/-! ### Counting from the epoch -/

/-- The number of the first of January 1970. -/
def epochOrdinal : Nat := 719163

/-- The moment a number of microseconds after the start of the year 1970, or before it if the
number is negative. -/
def ofEpoch? (elapsed : Int) : Option Moment := do
  let microsecondsPerDay : Int := 86400 * 1000000
  let day := elapsed.fdiv microsecondsPerDay + epochOrdinal
  guard (0 < day)
  let date ← Date.ofOrdinal? day.toNat
  let inDay := (elapsed.fmod microsecondsPerDay).toNat
  let seconds := inDay / 1000000
  of? date (seconds / 3600) (seconds / 60 % 60) (seconds % 60) (inDay % 1000000)

end Moment

end WorkQuery.Calendar
