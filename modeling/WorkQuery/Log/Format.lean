/-
This file reads message formats. A format is text with places for arguments. A place starts with a
percent sign; then come, each of them optional, the name of the argument in parentheses, flags, the
least width, a point with a precision, and a letter for the size of the argument, which means
nothing. The last letter says how the argument is written. A doubled percent sign is a percent
sign.
-/

import WorkQuery.Number.Integer
import WorkQuery.Text.Symbol

namespace WorkQuery.Log

open Number Text

/-! ### Places -/

/-- Which argument goes to a place: the next one, or one with a name. A name may be left open. -/
inductive Key
  | next
  | named (name : String)
  | unclosed
deriving DecidableEq, Repr

/-- A width or a precision: left out, taken from the arguments, or given. -/
inductive Extent
  | omitted
  | taken
  | given (count : Nat)
deriving DecidableEq, Repr

/-- What is asked for beyond the plain form. -/
structure Flags where
  leftAligned : Bool
  plusSign : Bool
  blankSign : Bool
  marked : Bool
  zeroFilled : Bool
deriving DecidableEq, Repr

/-- A place. A place that the format breaks off has no letter; any symbol can stand for one. -/
structure Place where
  key : Key
  flags : Flags
  width : Extent
  precision : Extent
  letter : Option Symbol
deriving DecidableEq, Repr

/-- A part of a format: a character of its text or a place, with the position of its letter. -/
inductive Piece
  | character (character : Char)
  | place (place : Place) (position : Nat)
deriving DecidableEq, Repr

/-! ### Reading places -/

/-- The name before the parenthesis that closes it, with what follows; parentheses within it come in
pairs, and `depth` of them are open. -/
def readName? (depth : Nat) : List Char → Option (List Char × List Char)
  | [] => none
  | ')' :: rest =>
    match depth with
    | 0 => some ([], rest)
    | depth + 1 => (readName? depth rest).map fun (name, rest) => (')' :: name, rest)
  | '(' :: rest => (readName? (depth + 1) rest).map fun (name, rest) => ('(' :: name, rest)
  | character :: rest => (readName? depth rest).map fun (name, rest) => (character :: name, rest)

/-- The key at the start of a place, with what follows. -/
def readKey : List Char → Key × List Char
  | '(' :: rest =>
    match readName? 0 rest with
    | some (name, rest) => (.named (String.ofList name), rest)
    | none => (.unclosed, [])
  | characters => (.next, characters)

/-- The characters that are flags. -/
def flagCharacters : List Char := ['-', '+', ' ', '#', '0']

/-- The flags that characters stand for. -/
def Flags.ofCharacters (characters : List Char) : Flags where
  leftAligned := characters.contains '-'
  plusSign := characters.contains '+'
  blankSign := characters.contains ' '
  marked := characters.contains '#'
  zeroFilled := characters.contains '0'

/-- The flags at the start of what follows a key, with what follows them. -/
def readFlags (characters : List Char) : Flags × List Char :=
  (.ofCharacters (characters.takeWhile flagCharacters.contains),
    characters.dropWhile flagCharacters.contains)

/-- A width or a precision at the start of characters, with what follows. -/
def readExtent : List Char → Extent × List Char
  | '*' :: rest => (.taken, rest)
  | characters =>
    match characters.takeWhile Char.isDigit with
    | [] => (.omitted, characters)
    | digits => (.given (ofDigits (digits.filterMap asciiDigit?)),
        characters.dropWhile Char.isDigit)

/-- A precision with its point, and what follows; after the point no number means zero. -/
def readPrecision : List Char → Extent × List Char
  | '.' :: rest =>
    match readExtent rest with
    | (.omitted, rest) => (.given 0, rest)
    | found => found
  | characters => (.omitted, characters)

/-- The characters after a letter for a size, if there is one. -/
def skipSize : List Char → List Char
  | 'h' :: rest => rest
  | 'l' :: rest => rest
  | 'L' :: rest => rest
  | characters => characters

/-- The place that stands after a percent sign, with what follows. -/
def readPlace (characters : List Char) : Place × List Char :=
  let (key, rest) := readKey characters
  let (flags, rest) := readFlags rest
  let (width, rest) := readExtent rest
  let (precision, rest) := readPrecision rest
  match firstSymbol? (skipSize rest) with
  | some (letter, rest) => (⟨key, flags, width, precision, some letter⟩, rest)
  | none => (⟨key, flags, width, precision, none⟩, [])

/-! ### Reading formats -/

/-- The pieces of the end of a format that has some symbols in all. -/
def piecesOf (total : Nat) : List Char → List Piece
  | [] => []
  | '%' :: '%' :: rest => .character '%' :: piecesOf total rest
  | '%' :: rest =>
    let (place, left) := readPlace rest
    .place place (total - (symbols left).length - 1) ::
      piecesOf total (rest.drop (rest.length - left.length))
  | character :: rest => .character character :: piecesOf total rest
termination_by characters => characters.length
decreasing_by all_goals (simp only [List.length_cons, List.length_drop]; omega)

/-- The pieces of a format. -/
def pieces (format : String) : List Piece := piecesOf (textLength format) format.toList

end WorkQuery.Log
