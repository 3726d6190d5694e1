/-
This file holds every way in which an operation of the library can fail, with the sentence for
each. A request that does not fit the compact form fails with a `ParseError`; a value that does not
fit a schema fails with its list of issues; the remaining failures are arguments of a kind that an
operation cannot work with at all.
-/

import WorkQuery.Json.Display
import WorkQuery.Json.Reader
import WorkQuery.Schema.Issue

namespace WorkQuery

open Json Number Schema Text

/-! ### Compact forms and documents -/

/-- Why a compact form or a query document is refused. -/
inductive ParseError
  | document (issueCount : Nat)
  | notJson (subject : String)
  | notArray (subject : String)
  | filterShape
  | bodyShape (property : String)
  | operatorShape (property : String)
  | unknownOperator (property code : String)
  | rangeLength (property : String)
  | combinedPlaceholder (property : String)
  | severalValues (property : String) (count : Nat)
  | truth (property written : String)
  | values (property : String) (written : List String)
  | date (written : String)
  | criterionShape
  | criterion (shown : String)
  | page (number : Int)

/-- The sentence for a refused form. -/
def ParseError.message : ParseError → String
  | .document count => "Invalid query document: " ++ naturalText count ++ " error(s)"
  | .notJson subject => subject ++ " is not valid JSON"
  | .notArray subject => subject ++ " must be a JSON array"
  | .filterShape => "each filter must be an object"
  | .bodyShape property => property ++ ": filter body must be an object"
  | .operatorShape property => property ++ ": operator must be a string"
  | .unknownOperator property code => property ++ ": unknown operator " ++ quoted code
  | .rangeLength property => property ++ ": '<>d' needs exactly two dates"
  | .combinedPlaceholder property =>
    property ++ ": 'me' cannot be combined with other values"
  | .severalValues property count =>
    property ++ ": expected a single value, got " ++ naturalText count
  | .truth property written => property ++ ": expected a boolean, got " ++ quoted written
  | .values property written => property ++ ": invalid value " ++ quotedList written
  | .date written => "Invalid date: " ++ quoted written
  | .criterionShape => "each sort criterion must be [attribute, direction]"
  | .criterion shown => "invalid sort criterion " ++ shown
  | .page number => "page " ++ integerText number ++ " is out of range"

/-! ### Failures -/

/-- On what way through a value the stack of calls comes to its end. -/
inductive Descent
  | reading (nest : Nest)
  | showing

/-- How an operation fails. -/
inductive Failure
  | parse (error : ParseError)
  | invalid (issues : List Issue)
  | database
  | conversion (fault : ConversionFault)
  | notMember (shown family : String)
  | notIterable (kind : String)
  | notKey (kind : String)
  | noAttribute (kind name : String)
  | notText (kind : String)
  | unknownKey (key : Value)
  | quotientTooLarge
  | tooDeep (descent : Descent)
  | unencodable (first last code : Nat)

/-- The sentence for a failure; issues speak for themselves. -/
def Failure.message : Failure → String
  | .parse error => error.message
  | .invalid _ => ""
  | .database => "database error"
  | .conversion fault => fault.message
  | .notMember shown family => shown ++ " is not a valid " ++ family
  | .notIterable kind => "'" ++ kind ++ "' object is not iterable"
  | .notKey kind => "unhashable type: '" ++ kind ++ "'"
  | .noAttribute kind name => "'" ++ kind ++ "' object has no attribute '" ++ name ++ "'"
  | .notText kind => "expected string or bytes-like object, got '" ++ kind ++ "'"
  | .unknownKey key => key.shown
  | .quotientTooLarge => "integer division result too large for a float"
  | .tooDeep descent =>
    "maximum recursion depth exceeded while " ++
      (match descent with
        | .reading .list => "decoding a JSON array from a unicode string"
        | .reading .object => "decoding a JSON object from a unicode string"
        | .showing => "getting the repr of an object")
  | .unencodable first last code =>
    "'utf-8' codec can't encode character" ++
      (if first = last then " '\\u" ++ String.ofList (hexCode 4 code) ++ "' in position "
        else "s in position " ++ naturalText first ++ "-") ++
      naturalText last ++ ": surrogates not allowed"

/-- The failure of an operation that has to show a value that cannot be shown. -/
def Failure.ofShowFault : ShowFault → Failure
  | .tooManyDigits => .conversion .writing
  | .tooDeep => .tooDeep .showing

end WorkQuery
