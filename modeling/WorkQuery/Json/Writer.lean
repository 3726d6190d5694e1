/-
This file writes JSON text on one line, with a blank after commas and colons. Texts keep every
character that can stand in a text as it is; quotes, backslashes and control characters are
escaped.
-/

import WorkQuery.Json.Value
import WorkQuery.Number.Shortest
import WorkQuery.Text.Quoted

namespace WorkQuery.Json

open Number

/-- One character inside a written text. -/
def writtenCharacter (character : Char) : List Char :=
  match character with
  | '"' => ['\\', '"']
  | '\\' => ['\\', '\\']
  | '\n' => ['\\', 'n']
  | '\r' => ['\\', 'r']
  | '\t' => ['\\', 't']
  | '\x08' => ['\\', 'b']
  | '\x0c' => ['\\', 'f']
  | other =>
    if other.toNat ≤ 0x1F then '\\' :: 'u' :: Text.hexCode 4 other.toNat else [other]

/-- A text between quotes. -/
def writtenText (text : String) : String :=
  String.ofList ('"' :: text.toList.flatMap writtenCharacter ++ ['"'])

/-- A number; the three that the format lacks are written as words. -/
def writtenReal : Binary64 → String
  | .notANumber => "NaN"
  | .infinite negative => if negative then "-Infinity" else "Infinity"
  | number => number.text

mutual

/-- The text of a value. -/
def write : Value → String
  | .null => "null"
  | .bool truth => if truth then "true" else "false"
  | .int value => integerText value
  | .real value => writtenReal value
  | .text value => writtenText value
  | .list items => "[" ++ ", ".intercalate (writeItems items) ++ "]"
  | .object fields => "\x7b" ++ ", ".intercalate (writeFields fields) ++ "\x7d"

/-- The texts of the items of a list. -/
def writeItems : List Value → List String
  | [] => []
  | item :: items => write item :: writeItems items

/-- The texts of the members of an object. -/
def writeFields : List (String × Value) → List String
  | [] => []
  | (name, value) :: fields => (writtenText name ++ ": " ++ write value) :: writeFields fields

end

end WorkQuery.Json
