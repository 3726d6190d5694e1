/-
This file holds the quoted form in which messages show a text. The text stands between single
quotes, or between double quotes when it holds a single quote and no double one; the quote in use
and the backslash are escaped, and a character that cannot be shown is written by its code.
-/

import WorkQuery.Text.Printable
import WorkQuery.Text.Symbol

namespace WorkQuery.Text

/-! ### Codes -/

/-- The digits of a number in base sixteen, padded with zeros to a width. -/
def hexCode (width value : Nat) : List Char :=
  let digits := Nat.toDigits 16 value
  List.replicate (width - digits.length) '0' ++ digits

/-- A symbol written by its code, in the shortest of the three widths that holds it. -/
def codeEscape (code : Nat) : List Char :=
  if code ≤ 0xFF then '\\' :: 'x' :: hexCode 2 code
  else if code ≤ 0xFFFF then '\\' :: 'u' :: hexCode 4 code
  else '\\' :: 'U' :: hexCode 8 code

/-! ### Quoting -/

/-- The quote around a text: a double one exactly when the text holds a single quote and no double
one. -/
def quoteFor (characters : List Char) : Char :=
  if characters.contains '\'' && !characters.contains '"' then '"' else '\''

/-- One character inside quotes. -/
def quotedCharacter (quote character : Char) : List Char :=
  if character = quote ∨ character = '\\' then ['\\', character]
  else if character = '\n' then ['\\', 'n']
  else if character = '\r' then ['\\', 'r']
  else if character = '\t' then ['\\', 't']
  else if isPrintable character then [character]
  else codeEscape character.toNat

/-- One symbol inside quotes. -/
def quotedSymbol (quote : Char) : Symbol → List Char
  | .character character => quotedCharacter quote character
  | half => codeEscape half.code

/-- The text in quotes. -/
def quoted (text : String) : String :=
  let quote := quoteFor text.toList
  String.ofList (quote :: (symbols text.toList).flatMap (quotedSymbol quote) ++ [quote])

/-- The texts in quotes, between brackets and separated by commas. -/
def quotedList (texts : List String) : String :=
  "[" ++ ", ".intercalate (texts.map quoted) ++ "]"

end WorkQuery.Text
