/-
This file reads a statement the way a database finds its string literals: a literal opens at a
single quote, two quotes in a row inside it stand for one, and it closes at the first quote that
stands alone; a backslash is a character like any other. Text that is put together from words
without quotes and from quoted texts is taken apart into just these (`lex_written`), provided that
no two quoted texts touch.
-/

import Mathlib.Data.List.Basic
import WorkQuery.Sql.Literal

namespace WorkQuery.Sql

/-! ### The rule for literals -/

/-- A character outside of all literals, or a literal with the text that it stands for. -/
inductive Lexeme
  | outside (character : Char)
  | literal (text : String)
deriving DecidableEq, Repr

/-- The lexemes of characters, outside of a literal or inside one that began with the characters
given. There are none if a literal is left open. -/
def lexFrom : Option (List Char) → List Char → Option (List Lexeme)
  | none, [] => some []
  | none, '\'' :: rest => lexFrom (some []) rest
  | none, character :: rest => (lexFrom none rest).map (.outside character :: ·)
  | some _, [] => none
  | some before, '\'' :: '\'' :: rest => lexFrom (some (before ++ ['\''])) rest
  | some before, '\'' :: rest => (lexFrom none rest).map (.literal (String.ofList before) :: ·)
  | some before, character :: rest => lexFrom (some (before ++ [character])) rest

/-- The lexemes of a text. -/
def lex (text : String) : Option (List Lexeme) :=
  lexFrom none text.toList

theorem lexFrom_outside {character : Char} (notQuote : character ≠ '\'') (rest : List Char) :
    lexFrom none (character :: rest) = (lexFrom none rest).map (.outside character :: ·) := by
  rw [lexFrom]
  exact fun same => notQuote same

theorem lexFrom_inside {character : Char} (notQuote : character ≠ '\'') (before rest : List Char) :
    lexFrom (some before) (character :: rest) = lexFrom (some (before ++ [character])) rest := by
  rw [lexFrom]
  · exact fun _ same => absurd same notQuote
  · exact fun same => notQuote same

/-- A quote that is not doubled closes the literal. -/
theorem lexFrom_close (before : List Char) {rest : List Char} (alone : rest.head? ≠ some '\'') :
    lexFrom (some before) ('\'' :: rest) =
      (lexFrom none rest).map (.literal (String.ofList before) :: ·) := by
  rw [lexFrom]
  rintro others rfl
  exact alone rfl

/-! ### Words and quoted texts -/

/-- A piece of a statement: words as they stand, or a text that is quoted. -/
inductive Part
  | words (text : String)
  | literal (text : String)
deriving DecidableEq, Repr

namespace Part

/-- The piece as statements write it. -/
def written : Part → String
  | words text => text
  | literal text => quote text

/-- The lexemes of the piece. -/
def lexemes : Part → List Lexeme
  | words text => text.toList.map .outside
  | literal text => [.literal text]

end Part

/-- Pieces as statements write them, one behind the other. -/
def written (parts : List Part) : String :=
  String.join (parts.map Part.written)

/-- The lexemes of pieces. -/
def lexemesOf (parts : List Part) : List Lexeme :=
  parts.flatMap Part.lexemes

/-- Words without quotes and quoted texts, no two of which touch. -/
inductive Apart : List Part → Prop
  | nil : Apart []
  | words {text : String} {rest : List Part} (unquoted : '\'' ∉ text.toList) (others : Apart rest) :
    Apart (.words text :: rest)
  | last (text : String) : Apart [.literal text]
  | literal (text : String) {words : String} {rest : List Part} (nonempty : words ≠ "")
    (others : Apart (.words words :: rest)) : Apart (.literal text :: .words words :: rest)

@[simp] theorem written_nil : written [] = "" := rfl

@[simp] theorem written_cons (part : Part) (rest : List Part) :
    written (part :: rest) = part.written ++ written rest :=
  String.join_cons

theorem written_words (text : String) : written [.words text] = text := by
  rw [written_cons, written_nil, String.append_empty]
  rfl

theorem written_append (first second : List Part) :
    written (first ++ second) = written first ++ written second := by
  rw [written, List.map_append, String.join_append]
  rfl

/-- A list of pieces is written with the separator between them. -/
theorem written_intercalate (separator : String) (pieces : List (List Part)) :
    written (List.intercalate [.words separator] pieces) =
      separator.intercalate (pieces.map written) := by
  induction pieces with
  | nil => rfl
  | cons piece pieces inductionHypothesis =>
    cases pieces with
    | nil => rw [List.intercalate_singleton, List.map_singleton, String.intercalate_singleton]
    | cons next others =>
      rw [List.intercalate_cons_cons, written_append, written_append, inductionHypothesis,
        written_cons, written_nil, String.append_empty]
      simp only [List.map_cons, String.intercalate_cons_cons]
      rfl

theorem Apart.append_words {first rest : List Part} {text : String} (apart : Apart first)
    (nonempty : text ≠ "") (others : Apart (.words text :: rest)) :
    Apart (first ++ .words text :: rest) := by
  induction apart with
  | nil => exact others
  | words unquoted _ inductionHypothesis => exact .words unquoted inductionHypothesis
  | last before => exact .literal before nonempty others
  | literal before nonempty' _ inductionHypothesis =>
    exact .literal before nonempty' inductionHypothesis

/-- Pieces with a separator between them do not touch. -/
theorem apart_intercalate {separator : String} (nonempty : separator ≠ "")
    (unquoted : '\'' ∉ separator.toList) {pieces : List (List Part)}
    (apart : ∀ piece ∈ pieces, Apart piece) :
    Apart (List.intercalate [.words separator] pieces) := by
  induction pieces with
  | nil => exact .nil
  | cons piece pieces inductionHypothesis =>
    have first := apart piece List.mem_cons_self
    have others :=
      inductionHypothesis fun other member => apart other (List.mem_cons_of_mem _ member)
    cases pieces with
    | nil =>
      rw [List.intercalate_singleton]
      exact first
    | cons next rest =>
      rw [List.intercalate_cons_cons, List.append_assoc]
      exact first.append_words nonempty (.words unquoted others)

/-! ### Reading what was written -/

/-- Words without quotes are read character by character. -/
theorem lexFrom_words {characters : List Char} (unquoted : '\'' ∉ characters) (rest : List Char) :
    lexFrom none (characters ++ rest) =
      (lexFrom none rest).map (characters.map .outside ++ ·) := by
  induction characters with
  | nil => simp
  | cons character characters inductionHypothesis =>
    obtain ⟨notQuote, unquoted⟩ := not_or.mp (List.mem_cons.not.mp unquoted)
    rw [List.cons_append, lexFrom_outside (Ne.symm notQuote), inductionHypothesis unquoted,
      Option.map_map]
    rfl

/-- An escaped text is read as that text, and the literal stays open behind it. -/
theorem lexFrom_escaped (before characters rest : List Char) :
    lexFrom (some before) (characters.flatMap escapedCharacter ++ rest) =
      lexFrom (some (before ++ characters)) rest := by
  induction characters generalizing before with
  | nil => rw [List.flatMap_nil, List.nil_append, List.append_nil]
  | cons character characters inductionHypothesis =>
    rw [List.flatMap_cons, List.append_assoc, List.append_cons before character characters]
    by_cases isQuote : character = '\''
    · rw [escapedCharacter, if_pos isQuote, isQuote]
      exact inductionHypothesis _
    · rw [escapedCharacter, if_neg isQuote]
      exact (lexFrom_inside isQuote before _).trans (inductionHypothesis _)

/-- A quoted text is read as one literal that stands for that text. -/
theorem lexFrom_quote (text : String) {rest : List Char} (alone : rest.head? ≠ some '\'') :
    lexFrom none ((quote text).toList ++ rest) =
      (lexFrom none rest).map (.literal text :: ·) := by
  have characters : (quote text).toList ++ rest =
      '\'' :: (text.toList.flatMap escapedCharacter ++ '\'' :: rest) := by
    simp [quote, toList_escapeText]
  rw [characters, lexFrom, lexFrom_escaped, List.nil_append, lexFrom_close _ alone,
    String.ofList_toList]

/-- Pieces are read as their lexemes, and no literal is left open. -/
theorem lex_written {parts : List Part} (apart : Apart parts) :
    lex (written parts) = some (lexemesOf parts) := by
  unfold lex
  induction apart with
  | nil => rfl
  | words unquoted _ inductionHypothesis =>
    rw [written_cons, String.toList_append, Part.written, lexFrom_words unquoted,
      inductionHypothesis]
    rfl
  | last text =>
    have quoted := lexFrom_quote text (show ([] : List Char).head? ≠ some '\'' from nofun)
    rw [List.append_nil] at quoted
    rw [written_cons, written_nil, String.append_empty]
    exact quoted
  | @literal text words rest nonempty others inductionHypothesis =>
    have alone : (written (.words words :: rest)).toList.head? ≠ some '\'' := by
      cases others with
      | words unquoted _ =>
        have characters : words.toList ≠ [] :=
          fun empty => nonempty (String.toList_eq_nil_iff.mp empty)
        obtain ⟨first, tail, same⟩ := List.exists_cons_of_ne_nil characters
        rw [written_cons, String.toList_append, Part.written, same, List.cons_append,
          List.head?_cons]
        rw [same] at unquoted
        exact fun isQuote => unquoted (Option.some.inj isQuote ▸ List.mem_cons_self)
    rw [written_cons, String.toList_append, Part.written, lexFrom_quote text alone,
      inductionHypothesis]
    rfl

end WorkQuery.Sql
