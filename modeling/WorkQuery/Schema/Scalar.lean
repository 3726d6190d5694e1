/-
This file holds the readers of single values: texts, integers, numbers, truth values, dates and the
members of a fixed family. They are lenient about the form in which a value arrives, since requests
are written by hand and by many tools: an integer may be a whole number with a point, a truth value
or a text, a date may be a moment at midnight or a count of seconds since 1970.
-/

import WorkQuery.Calendar.Moment
import WorkQuery.Schema.Checked

namespace WorkQuery.Schema

open Calendar Json Number Text

/-! ### Texts and families -/

/-- A text. -/
def text : Value → Checked String
  | .text value => .ok value
  | _ => reject .textKind

/-- A text without halves of surrogate pairs, as everything needs it that is read off a text. -/
def whole (written : String) : Checked String :=
  if holdsHalf written then reject .textHalf else .ok written

/-- A text of a length between two bounds. -/
def boundedText (least greatest : Nat) : Value → Checked String
  | .text value => do
    let value ← whole value
    if textLength value < least then reject .textTooShort
    else if greatest < textLength value then reject .textTooLong
    else return value
  | _ => reject .textKind

/-- A member of a family whose members have names. -/
def memberOf {Content : Type} (ofName? : String → Option Content) : Value → Checked Content
  | .text name => do
    match ofName? (← whole name) with
    | some member => return member
    | none => reject .enumeration
  | _ => reject .enumeration

/-! ### Integers -/

/-- The natural number of digits in the form of the wire, which has no leading zeros. The length of
the leading run of digits decides before anything that follows it. -/
def wireNatural (characters : List Char) : Except IntegerFault Nat :=
  let run := characters.takeWhile Char.isDigit
  match run with
  | [] => .error .malformed
  | '0' :: _ :: _ => .error .malformed
  | _ =>
    if digitLimit < run.length then .error (.tooManyDigits run.length)
    else if run.length < characters.length then .error .malformed
    else .ok (digitsValue run)

/-- The characters without zeros at their start; one zero is kept where nothing or a point follows.
Underscores among the zeros are dropped too. A digit comes first, and a digit or a minus sign after
the zeros. -/
def withoutLeadingZeros? : List Char → Option (List Char)
  | '0' :: rest =>
    match rest.dropWhile fun character => character == '0' || character == '_' with
    | [] => some [rest.getLastD '0']
    | next :: rest' =>
      if next = '.' then
        let zeros := rest.takeWhile fun character => character == '0' || character == '_'
        some (zeros.getLastD '0' :: next :: rest')
      else if next.isDigit || next == '-' then some (next :: rest')
      else none
  | first :: rest => if first.isDigit then some (first :: rest) else none
  | [] => none

/-- The characters without a point and the zeros after it, if zeros and nothing else follow. -/
def withoutZeroFraction (characters : List Char) : List Char :=
  let fraction := (characters.dropWhile (· != '.')).drop 1
  if !fraction.isEmpty && fraction.all (· == '0') then characters.takeWhile (· != '.')
  else characters

/-- Whether underscores stand singly and inside only. -/
def wellSeparated : List Char → Bool
  | [] => true
  | ['_'] => false
  | '_' :: '_' :: _ => false
  | _ :: rest => wellSeparated rest

/-- The characters without underscores, if those stand singly and between other characters. -/
def withoutSeparators? (characters : List Char) : Option (List Char) :=
  if characters.head? = some '_' || !wellSeparated characters then none
  else some (characters.filter (· != '_'))

/-- The integer of digits that are not in the form of the wire: leading zeros, a fraction of zeros
and single underscores are allowed, and a minus sign that follows leading zeros. -/
def looseInteger (characters : List Char) : Except IntegerFault Int :=
  match (withoutLeadingZeros? characters).bind (withoutSeparators? ∘ withoutZeroFraction) with
  | some ('-' :: digits) => (wireNatural digits).map fun magnitude => -(magnitude : Int)
  | some digits => (wireNatural digits).map Int.ofNat
  | none => .error .malformed

/-- The integer of a text, with an optional sign and blanks around it. -/
def integerOfText (written : String) : Checked Int :=
  let (negative, digits) := splitSign (trim isSpace written.toList)
  let found : Except IntegerFault Int :=
    match wireNatural digits with
    | .error .malformed => looseInteger digits
    | found => found.map Int.ofNat
  match found with
  | .ok value => .ok (if negative then -value else value)
  | .error .malformed => reject .integerText
  | .error (.tooManyDigits _) => reject .integerSize

/-- Whether an integer fits into sixty-four bits with a sign. -/
def fitsWord (value : Int) : Bool :=
  -9223372036854775808 ≤ value && value ≤ 9223372036854775807

/-- Whether an integer fits into sixty-four bits whichever sign it has. -/
def insideWord (value : Int) : Bool :=
  value.natAbs < 9223372036854775808

/-- An integer. -/
def integer : Value → Checked Int
  | .int value => .ok value
  | .bool truth => .ok (if truth then 1 else 0)
  | .real value =>
    if !value.isFinite then reject .finiteNumber
    else
      match value.toInt? with
      | none => reject .integerFraction
      | some whole => if insideWord whole then .ok whole else reject .integerSize
  | .text written => whole written >>= integerOfText
  | _ => reject .integerKind

/-- The integer that any value stands for, its fraction cut off: the conversion that names are
derived with, which is a different one from reading an integer. -/
def convertInteger : Value → Except ConversionFault Int
  | .int value => .ok value
  | .bool truth => .ok (if truth then 1 else 0)
  | .real .notANumber => .error .notANumber
  | .real (.infinite _) => .error .infinite
  | .real value => .ok (value.truncated?.getD 0)
  | .text written => (readInteger written).mapError (.text written)
  | value => .error (.kind value.kindName)

/-! ### Numbers and truth values -/

/-- A number. -/
def number : Value → Checked Binary64
  | .real value => .ok value
  | .int value =>
    match Binary64.ofInt? value with
    | some number => .ok number
    | none => reject .numberKind
  | .bool truth => .ok (.ofRatio false (if truth then 1 else 0) 1)
  | .text written => do
    let characters := (← whole written).toList
    let found := plainNumber? (trim isSpace characters) <|>
      (withoutSeparators? characters).bind plainNumber?
    match found with
    | some number => return number
    | none => reject .numberText
  | _ => reject .numberKind

/-- The words that mean true, in small letters. -/
def trueWords : List String := ["1", "on", "t", "true", "y", "yes"]

/-- The words that mean false, in small letters. -/
def falseWords : List String := ["0", "off", "f", "false", "n", "no"]

/-- The truth value of an integer; others than zero and one have none. -/
def truthOfInteger (value : Int) : Checked Bool :=
  if value = 0 then .ok false else if value = 1 then .ok true else reject .truthText

/-- A truth value. Numbers beyond sixty-four bits and those with a fraction are not of its kind. -/
def truth : Value → Checked Bool
  | .bool value => .ok value
  | .int value =>
    if fitsWord value then truthOfInteger value else reject .truthKind
  | .real value =>
    match value.toInt? with
    | some whole => if insideWord whole then truthOfInteger whole else reject .truthKind
    | none => reject .truthKind
  | .text written => do
    let word := lowered (← whole written)
    if trueWords.contains word then return true
    else if falseWords.contains word then return false
    else reject .truthText
  | _ => reject .truthKind

/-! ### Dates -/

/-- The absolute count from which a count of time is in milliseconds instead of seconds. -/
def millisecondsFrom : Int := 20000000000

/-- The microseconds of a whole count of seconds or milliseconds. -/
def countedMicroseconds (count : Int) : Int :=
  if count.natAbs ≤ millisecondsFrom then count * 1000000 else count * 1000

/-- The first moment of year zero, which is a count that can be read but no day. -/
def yearZero : Int := -62167219200 * 1000000

/-- The first moment of year one. -/
def yearOne : Int := -62135596800 * 1000000

/-- The day of a count of microseconds since 1970, which has to be a midnight. -/
def dateOfCount (microseconds : Int) : Checked Date :=
  match Moment.ofEpoch? microseconds with
  | some moment => if moment.isMidnight then .ok moment.date else reject .dateMomentInexact
  | none =>
    if yearZero ≤ microseconds ∧ microseconds < yearOne then
      if microseconds % (86400 * 1000000) = 0 then reject .dateText else reject .dateMomentInexact
    else reject .dateMomentText

/-- A product with a natural number, rounded to a double and then to the nearest natural number, a
half up. -/
def roundedProduct (numerator denominator factor : Nat) : Nat :=
  match (Binary64.ofRatio false (numerator * factor) denominator).ratio? with
  | some (above, below) => (2 * above.natAbs + below) / (2 * below)
  | none => 0

/-- A number of seconds or milliseconds as microseconds. The greatest integer below the number is
counted exactly, and the fraction, without regard to the sign, is rounded and added. -/
def microsecondsOf? (value : Binary64) : Option Int := do
  let whole ← value.floor?
  let (numerator, denominator) ← value.ratio?
  let inMilliseconds := millisecondsFrom * denominator < numerator.natAbs
  let fraction := roundedProduct (numerator.natAbs % denominator) denominator
    (if inMilliseconds then 1000 else 1000000)
  return countedMicroseconds whole + fraction

/-- A written number of seconds or milliseconds as microseconds. Milliseconds are divided into
seconds first; the greatest whole number of seconds below is counted as any count, so that a count
that is still too great for seconds is taken for milliseconds again, and the rest is rounded. -/
def microsecondsOfWritten? (value : Binary64) : Option Int := do
  let (numerator, denominator) ← value.ratio?
  let seconds :=
    if millisecondsFrom * denominator < numerator.natAbs then
      .ofRatio (decide (numerator < 0)) numerator.natAbs (1000 * denominator)
    else value
  let whole ← seconds.floor?
  let (numerator, denominator) ← seconds.ratio?
  let rest := Binary64.ofRatio false (numerator - whole * denominator).natAbs denominator
  let (numerator, denominator) ← rest.ratio?
  return countedMicroseconds whole + roundedProduct numerator.natAbs denominator 1000000

/-- The microseconds of a count that is written in digits, with an optional sign, and with a point
and then perhaps an exponent if it is not whole. -/
def countOfText? (characters : List Char) : Option Int :=
  let (negative, rest) := splitSign characters
  let whole := rest.takeWhile Char.isDigit
  if !insideWord (digitsValue whole) then none
  else
    match rest.dropWhile Char.isDigit with
    | [] =>
      if whole.isEmpty then none
      else some (countedMicroseconds (signed negative (digitsValue whole)))
    | '.' :: _ =>
      (numeral? rest).bind fun (digits, exponent) =>
        microsecondsOfWritten? (.ofDecimal negative digits exponent)
    | _ => none

/-- The day of a text: a date with hyphens, a count of time, or a moment at midnight. The year zero
can be written in all of these forms, but has no days. -/
def dateOfText (written : String) : Checked Date :=
  let characters := written.toList
  let day? := match Moment.readDay? characters with
    | some (day, []) => some day
    | _ => none
  let leapTwin := String.ofList ("2000".toList ++ characters.drop 4)
  match day?.bind fun (year, month, day) => Date.of? year month day with
  | some date => .ok date
  | none =>
    match Moment.read? written, countOfText? characters with
    | some moment, _ =>
      if moment.isMidnight then .ok moment.date else reject .dateMomentInexact
    | none, some microseconds => dateOfCount microseconds
    | none, none =>
      if characters.take 4 = ['0', '0', '0', '0'] then
        if day?.any fun (_, month, day) => (Date.of? 2000 month day).isSome then
          reject .dateText
        else
          match Moment.read? leapTwin with
          | some moment =>
            if moment.isMidnight then reject .dateText else reject .dateMomentInexact
          | none => reject .dateMomentText
      else reject .dateMomentText

/-- A day. An integer beyond all numbers is not of its kind. -/
def date : Value → Checked Date
  | .text written => whole written >>= dateOfText
  | .int count =>
    if (Binary64.ofInt? count).isSome then dateOfCount (countedMicroseconds count)
    else reject .dateKind
  | .real value =>
    match microsecondsOf? value with
    | some microseconds => dateOfCount microseconds
    | none => reject .dateMomentText
  | _ => reject .dateKind

end WorkQuery.Schema
