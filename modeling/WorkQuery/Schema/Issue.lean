/-
This file holds what can be wrong with a part of a value that has to fit a schema. An issue is a
place, given by the names and positions that lead to it, and a cause; `code` gives the stable name
of the cause, and the rules of the library itself bring a sentence along.
-/

import WorkQuery.Number.Integer
import WorkQuery.Text.Quoted

namespace WorkQuery.Schema

open Number Text

/-! ### Places -/

/-- One step of the way to a part of a value. -/
inductive Step
  | field (name : String)
  | index (position : Nat)
deriving DecidableEq, Repr

/-! ### Integers and other values -/

/-- Why a value cannot be turned into an integer, or an integer into a text. -/
inductive ConversionFault
  | text (written : String) (fault : IntegerFault)
  | notANumber
  | infinite
  | kind (name : String)
  | writing
deriving DecidableEq, Repr

/-- A text in quotes, as far as two hundred characters reach. -/
def quotedExcerpt (written : String) : String :=
  String.ofList ((quoted written).toList.take 200)

/-- The sentence for a conversion that failed. -/
def ConversionFault.message : ConversionFault → String
  | .text written .malformed =>
    "invalid literal for int() with base 10: " ++ quotedExcerpt written
  | .text _ (.tooManyDigits count) =>
    "Exceeds the limit (" ++ naturalText digitLimit ++
      " digits) for integer string conversion: value has " ++ naturalText count ++
      " digits; use sys.set_int_max_str_digits() to increase the limit"
  | .notANumber => "cannot convert float NaN to integer"
  | .infinite => "cannot convert float infinity to integer"
  | .kind name =>
    "int() argument must be a string, a bytes-like object or a real number, not '" ++ name ++ "'"
  | .writing =>
    "Exceeds the limit (" ++ naturalText digitLimit ++
      " digits) for integer string conversion; use sys.set_int_max_str_digits() to increase the limit"

/-! ### Causes -/

/-- A rule of the library that a value breaks although each of its parts is sound. -/
inductive Breach
  | daysNeeded (operator : String)
  | daysUnwanted (operator : String)
  | unknownOperator (code : String)
  | customFieldWithoutId
  | conversion (fault : ConversionFault)
deriving DecidableEq, Repr

/-- The sentence for a broken rule. -/
def Breach.message : Breach → String
  | .daysNeeded operator => operator ++ " needs a day offset"
  | .daysUnwanted operator => operator ++ " does not take a day offset"
  | .unknownOperator code => "Unknown filter operator code: " ++ quoted code
  | .customFieldWithoutId => "custom field columns need a custom_field_id"
  | .conversion fault => fault.message

/-- Why a part of a value does not fit. -/
inductive Cause
  | missing
  | textKind
  | textHalf
  | textTooShort
  | textTooLong
  | integerKind
  | integerText
  | integerSize
  | integerFraction
  | finiteNumber
  | numberKind
  | numberText
  | truthKind
  | truthText
  | listKind
  | mapKind
  | modelKind
  | modelOrTagKind
  | tagMissing
  | tagUnknown
  | enumeration
  | dateKind
  | dateText
  | dateMomentText
  | dateMomentInexact
  | notAbove
  | belowLeast
  | aboveGreatest
  | malformedJson
  | breach (rule : Breach)
deriving DecidableEq, Repr

/-- The stable name of a cause. -/
def Cause.code : Cause → String
  | .missing => "missing"
  | .textKind => "string_type"
  | .textHalf => "string_unicode"
  | .textTooShort => "string_too_short"
  | .textTooLong => "string_too_long"
  | .integerKind => "int_type"
  | .integerText => "int_parsing"
  | .integerSize => "int_parsing_size"
  | .integerFraction => "int_from_float"
  | .finiteNumber => "finite_number"
  | .numberKind => "float_type"
  | .numberText => "float_parsing"
  | .truthKind => "bool_type"
  | .truthText => "bool_parsing"
  | .listKind => "list_type"
  | .mapKind => "dict_type"
  | .modelKind => "model_type"
  | .modelOrTagKind => "model_attributes_type"
  | .tagMissing => "union_tag_not_found"
  | .tagUnknown => "union_tag_invalid"
  | .enumeration => "enum"
  | .dateKind => "date_type"
  | .dateText => "date_parsing"
  | .dateMomentText => "date_from_datetime_parsing"
  | .dateMomentInexact => "date_from_datetime_inexact"
  | .notAbove => "greater_than"
  | .belowLeast => "greater_than_equal"
  | .aboveGreatest => "less_than_equal"
  | .malformedJson => "json_invalid"
  | .breach _ => "value_error"

/-- The sentence that a cause brings along. -/
def Cause.sentence? : Cause → Option String
  | .breach rule => some ("Value error, " ++ rule.message)
  | _ => none

/-- A place in a value and what is wrong there. -/
structure Issue where
  path : List Step
  cause : Cause
deriving DecidableEq, Repr

end WorkQuery.Schema
