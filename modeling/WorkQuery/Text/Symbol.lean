/-
This file holds the symbols that texts are made of: characters, and halves of surrogate pairs, which
the escapes of the wire can write although they are no characters. Texts are kept as strings all the
same. A half is kept as two characters, the mark and a character of the private area; the mark is
the last of all characters and is itself kept doubled. `symbols_written` says that the symbols of a
text can be read off the string that keeps them.
-/

namespace WorkQuery.Text

/-! ### Symbols -/

/-- A character, or the half of a surrogate pair with a place among all of them. -/
inductive Symbol
  | character (character : Char)
  | half (place : Fin 0x800)
deriving DecidableEq, Repr

/-- The code of the first half. -/
def firstHalf : Nat := 0xD800

/-- The half with a code, if the code is one of a half. -/
def Symbol.half? (code : Nat) : Option Symbol :=
  if inRange : firstHalf ≤ code ∧ code - firstHalf < 0x800 then
    some (.half ⟨code - firstHalf, inRange.2⟩)
  else none

/-- The symbol with a code; a number that is no code stands for the replacement character. -/
def Symbol.ofCode (code : Nat) : Symbol :=
  match half? code with
  | some symbol => symbol
  | none => .character (if code.isValidChar then .ofNat code else '\uFFFD')

/-- The code of a symbol. -/
def Symbol.code : Symbol → Nat
  | character letter => letter.toNat
  | half place => firstHalf + place

/-! ### Pairs -/

/-- Whether a code is one of the halves that a pair opens with. -/
def opensPair (code : Nat) : Bool :=
  0xD800 ≤ code && code ≤ 0xDBFF

/-- Whether a code is one of the halves that a pair closes with. -/
def closesPair (code : Nat) : Bool :=
  0xDC00 ≤ code && code ≤ 0xDFFF

/-- The code of the character that a pair of halves stands for. -/
def pairCode (opening closing : Nat) : Nat :=
  0x10000 + (opening - 0xD800) * 0x400 + (closing - 0xDC00)

/-! ### Keeping symbols in strings -/

/-- The character that announces a half. -/
def mark : Char := .ofNat 0x10FFFF

/-- The character that stands for the first half after the mark. -/
def firstStand : Nat := 0xE000

/-- The characters that keep a symbol. -/
def Symbol.written : Symbol → List Char
  | character letter => if letter = mark then [mark, mark] else [letter]
  | half place => [mark, .ofNat (firstStand + place)]

/-- The symbol that the mark and a character after it keep. -/
def marked (stand : Char) : Symbol :=
  if inRange : firstStand ≤ stand.toNat ∧ stand.toNat - firstStand < 0x800 then
    .half ⟨stand.toNat - firstStand, inRange.2⟩
  else .character mark

/-- The symbols that characters keep. -/
def symbols : List Char → List Symbol
  | [] => []
  | [last] => [.character last]
  | first :: second :: rest =>
    if first = mark then marked second :: symbols rest
    else .character first :: symbols (second :: rest)

/-- The string that keeps symbols. -/
def ofSymbols (kept : List Symbol) : String :=
  String.ofList (kept.flatMap Symbol.written)

/-- The first symbol that characters keep, with the characters after it. -/
def firstSymbol? : List Char → Option (Symbol × List Char)
  | [] => none
  | [last] => some (.character last, [])
  | first :: second :: rest =>
    if first = mark then some (marked second, rest) else some (.character first, second :: rest)

/-! ### Texts -/

/-- The number of symbols of a text. -/
def textLength (text : String) : Nat :=
  (symbols text.toList).length

/-- Whether a text holds a half. -/
def holdsHalf (text : String) : Bool :=
  (symbols text.toList).any fun symbol => symbol matches .half _

/-- The text of characters as they come, none of which is meant as the mark. -/
def kept (characters : String) : String :=
  ofSymbols (characters.toList.map .character)

/-- The characters of a text, with the replacement character for its halves. -/
def shownCharacters (text : String) : String :=
  String.ofList ((symbols text.toList).map fun
    | .character character => character
    | .half _ => '\uFFFD')

/-! ### Small facts -/

theorem symbols_cons_of_ne {first : Char} (rest : List Char) (plain : first ≠ mark) :
    symbols (first :: rest) = .character first :: symbols rest := by
  cases rest with
  | nil => simp [symbols]
  | cons second rest => simp [symbols, plain]

/-- A text without the mark is made of characters alone. -/
theorem symbols_of_notMem {text : List Char} (plain : mark ∉ text) :
    symbols text = text.map .character := by
  induction text with
  | nil => rfl
  | cons first rest inductionHypothesis =>
    rw [List.mem_cons, not_or] at plain
    rw [symbols_cons_of_ne rest (Ne.symm plain.1), inductionHypothesis plain.2, List.map_cons]

theorem marked_stand (place : Fin 0x800) :
    marked (Char.ofNat (firstStand + place)) = .half place := by
  have valid : (firstStand + (place : Nat)).isValidChar := by
    right
    have := place.isLt
    constructor <;> simp only [firstStand] <;> omega
  have code : (Char.ofNat (firstStand + place)).toNat = firstStand + place := by
    rw [Char.ofNat, dif_pos valid]
    rfl
  simp [marked, code]

/-- The symbols of a text can be read off the string that keeps them. -/
theorem symbols_written (texts : List Symbol) :
    symbols (texts.flatMap Symbol.written) = texts := by
  induction texts with
  | nil => rfl
  | cons symbol texts inductionHypothesis =>
    rw [List.flatMap_cons]
    match symbol with
    | .half place =>
      simp [Symbol.written, symbols, marked_stand, inductionHypothesis]
    | .character character =>
      by_cases isMark : character = mark
      · have doubled : marked mark = .character mark := by decide
        simp [Symbol.written, isMark, symbols, doubled, inductionHypothesis]
      · simp [Symbol.written, isMark, symbols_cons_of_ne, inductionHypothesis]

end WorkQuery.Text
