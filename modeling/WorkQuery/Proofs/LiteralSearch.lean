/-
This file proves that a search finds its text as it stands. The pattern of a search is read back
from the literal of the written condition and matched by the rules for patterns: a percent sign
stands for any symbols, an underscore for any one symbol, and a symbol after a backslash for itself.
Each symbol of the text then meets one symbol of the subject (`likes_literal_append`), and only the
wildcard that an operator puts around the text stands for others, so that a subject is found if and
only if the text is a part of it at the place that the operator asks for
(`search_finds_literally`). Which symbols count as the same, upper and lower case for one, is left
to the database.
-/

import Mathlib.Data.List.Forall2
import Mathlib.Data.List.Infix
import WorkQuery.Proofs.FilterCondition
import WorkQuery.Proofs.WhereClause
import WorkQuery.Text.Symbol

namespace WorkQuery.Sql

open Text

/-! ### The rules for patterns -/

/-- Whether the first symbol of a subject passes a test and the symbols after it pass another. -/
def meets (test : Symbol → Bool) (others : List Symbol → Bool) : List Symbol → Bool
  | [] => false
  | first :: rest => test first && others rest

/-- Whether a subject has the form of a pattern. A pattern that ends with a backslash has no
form. -/
def likes (alike : Symbol → Symbol → Bool) : List Symbol → List Symbol → Bool
  | [] => List.isEmpty
  | .character '%' :: pattern => fun subject => subject.tails.any (likes alike pattern)
  | .character '_' :: pattern => meets (fun _ => true) (likes alike pattern)
  | [.character '\\'] => fun _ => false
  | .character '\\' :: symbol :: pattern => meets (alike symbol) (likes alike pattern)
  | symbol :: pattern => meets (alike symbol) (likes alike pattern)

section Pattern

variable {alike : Symbol → Symbol → Bool}

theorem meets_iff {test : Symbol → Bool} {others : List Symbol → Bool} {subject : List Symbol} :
    meets test others subject ↔
      ∃ first rest, subject = first :: rest ∧ test first ∧ others rest := by
  cases subject with
  | nil => simp [meets]
  | cons first rest => simp [meets]

theorem likes_nil_iff {subject : List Symbol} : likes alike [] subject ↔ subject = [] :=
  List.isEmpty_iff

theorem likes_any_iff {pattern subject : List Symbol} :
    likes alike (.character '%' :: pattern) subject ↔
      ∃ before rest, subject = before ++ rest ∧ likes alike pattern rest := by
  rw [likes, List.any_eq_true]
  constructor
  · rintro ⟨rest, isSuffix, matching⟩
    obtain ⟨before, rfl⟩ := (List.mem_tails _ _).mp isSuffix
    exact ⟨before, rest, rfl, matching⟩
  · rintro ⟨before, rest, rfl, matching⟩
    exact ⟨rest, (List.mem_tails _ _).mpr (List.suffix_append before rest), matching⟩

/-- A lone percent sign takes whatever there is. -/
theorem likes_any (subject : List Symbol) : likes alike [.character '%'] subject :=
  likes_any_iff.mpr ⟨subject, [], (List.append_nil subject).symm, likes_nil_iff.mpr rfl⟩

/-- A symbol of a text as a pattern writes it. -/
def literalSymbol : Symbol → List Symbol
  | .character character => (literalCharacter character).map .character
  | .half place => [.half place]

/-- A symbol as a pattern writes it stands for itself. -/
theorem likes_literalSymbol (symbol : Symbol) (pattern : List Symbol) :
    likes alike (literalSymbol symbol ++ pattern) = meets (alike symbol) (likes alike pattern) := by
  cases symbol with
  | half place => rfl
  | character character =>
    rw [literalSymbol, literalCharacter]
    split
    · rename_i special
      obtain rfl | rfl | rfl := special <;> rfl
    · rename_i plain
      obtain ⟨notBackslash, plain⟩ := not_or.mp plain
      obtain ⟨notPercent, notUnderscore⟩ := not_or.mp plain
      change likes alike (.character character :: pattern) = _
      rw [likes]
      · exact fun same => notPercent (Symbol.character.inj same)
      · exact fun same => notUnderscore (Symbol.character.inj same)
      · exact fun same _ => notBackslash (Symbol.character.inj same)
      · exact fun _ _ same _ => notBackslash (Symbol.character.inj same)

/-- Symbols that are alike, one by one. -/
abbrev AllAlike (alike : Symbol → Symbol → Bool) : List Symbol → List Symbol → Prop :=
  List.Forall₂ fun symbol other => alike symbol other

/-- A text as a pattern writes it takes as many symbols as it has, and these are alike. -/
theorem likes_literal_append (text pattern : List Symbol) {subject : List Symbol} :
    likes alike (text.flatMap literalSymbol ++ pattern) subject ↔
      ∃ found rest, subject = found ++ rest ∧ AllAlike alike text found ∧
        likes alike pattern rest := by
  induction text generalizing subject with
  | nil =>
    constructor
    · exact fun matching => ⟨[], subject, rfl, .nil, matching⟩
    · rintro ⟨found, rest, rfl, related, matching⟩
      obtain rfl := List.forall₂_nil_left_iff.mp related
      exact matching
  | cons symbol text inductionHypothesis =>
    rw [List.flatMap_cons, List.append_assoc, likes_literalSymbol, meets_iff]
    constructor
    · rintro ⟨first, others, rfl, same, matching⟩
      obtain ⟨found, rest, rfl, related, matching⟩ := inductionHypothesis.mp matching
      exact ⟨first :: found, rest, rfl, .cons same related, matching⟩
    · rintro ⟨found, rest, rfl, related, matching⟩
      obtain ⟨first, others, same, otherRelated, rfl⟩ := List.forall₂_cons_left_iff.mp related
      exact ⟨first, others ++ rest, rfl, same,
        inductionHypothesis.mpr ⟨others, rest, rfl, otherRelated, matching⟩⟩

theorem likes_literal_iff {text subject : List Symbol} :
    likes alike (text.flatMap literalSymbol) subject ↔ AllAlike alike text subject := by
  have whole : likes alike (text.flatMap literalSymbol ++ []) subject ↔ _ :=
    likes_literal_append text []
  rw [List.append_nil] at whole
  rw [whole]
  constructor
  · rintro ⟨found, rest, rfl, related, matching⟩
    rwa [likes_nil_iff.mp matching, List.append_nil]
  · exact fun related => ⟨subject, [], (List.append_nil _).symm, related, likes_nil_iff.mpr rfl⟩

/-! ### Places -/

/-- Whether a text stands at a place of a subject, up to symbols that are alike. -/
def Placement.Finds (alike : Symbol → Symbol → Bool) (text subject : List Symbol) :
    Placement → Prop
  | anywhere => ∃ before found after, subject = before ++ found ++ after ∧ AllAlike alike text found
  | atStart => ∃ found after, subject = found ++ after ∧ AllAlike alike text found
  | atEnd => ∃ before found, subject = before ++ found ∧ AllAlike alike text found

/-- A pattern with the wildcards for its place around it. -/
def Placement.around (pattern : List Symbol) : Placement → List Symbol
  | anywhere => .character '%' :: (pattern ++ [.character '%'])
  | atStart => pattern ++ [.character '%']
  | atEnd => .character '%' :: pattern

/-- Subjects have the form of a text with wildcards around it just when the text is found there. -/
theorem likes_around_iff (placement : Placement) {text subject : List Symbol} :
    likes alike (placement.around (text.flatMap literalSymbol)) subject ↔
      placement.Finds alike text subject := by
  cases placement with
  | anywhere =>
    rw [Placement.around, likes_any_iff]
    constructor
    · rintro ⟨before, others, rfl, matching⟩
      obtain ⟨found, after, rfl, related, -⟩ := (likes_literal_append _ _).mp matching
      exact ⟨before, found, after, (List.append_assoc _ _ _).symm, related⟩
    · rintro ⟨before, found, after, rfl, related⟩
      exact ⟨before, found ++ after, List.append_assoc _ _ _,
        (likes_literal_append _ _).mpr ⟨found, after, rfl, related, likes_any after⟩⟩
  | atStart =>
    rw [Placement.around, likes_literal_append]
    constructor
    · rintro ⟨found, after, rfl, related, -⟩
      exact ⟨found, after, rfl, related⟩
    · rintro ⟨found, after, rfl, related⟩
      exact ⟨found, after, rfl, related, likes_any after⟩
  | atEnd =>
    rw [Placement.around, likes_any_iff]
    simp only [likes_literal_iff]
    rfl

end Pattern

/-! ### Patterns as they are kept -/

theorem literalCharacter_mark : literalCharacter mark = [mark] := by
  decide

/-- The character that tells the halves apart needs no escape. -/
theorem literalCharacter_stand (place : Fin 0x800) :
    literalCharacter (.ofNat (firstStand + place)) = [.ofNat (firstStand + place)] := by
  have isHalf := marked_stand place
  rw [literalCharacter, if_neg]
  rintro (same | same | same) <;> rw [same] at isHalf <;> cases isHalf

/-- A text is escaped symbol by symbol, whatever characters keep the symbols. -/
theorem flatMap_literalCharacter_written (symbol : Symbol) :
    symbol.written.flatMap literalCharacter = (literalSymbol symbol).flatMap Symbol.written := by
  cases symbol with
  | half place =>
    simp only [Symbol.written, literalSymbol, List.flatMap_cons, List.flatMap_nil,
      literalCharacter_mark, literalCharacter_stand]
    rfl
  | character character =>
    rw [Symbol.written]
    split
    · rename_i isMark
      rw [isMark]
      decide
    · rename_i notMark
      rw [List.flatMap_singleton, literalSymbol, literalCharacter]
      split
      · rename_i special
        obtain rfl | rfl | rfl := special <;> decide
      · simp [Symbol.written, notMark]

theorem toList_literalPattern (text : List Symbol) :
    (literalPattern (ofSymbols text)).toList =
      (text.flatMap literalSymbol).flatMap Symbol.written := by
  rw [literalPattern, ofSymbols, String.toList_ofList, String.toList_ofList, List.flatMap_assoc,
    List.flatMap_assoc]
  exact List.flatMap_congr fun symbol _ => flatMap_literalCharacter_written symbol

/-- The symbols of the pattern of a search. -/
theorem symbols_pattern (placement : Placement) (text : List Symbol) :
    symbols (placement.pattern (ofSymbols text)).toList =
      placement.around (text.flatMap literalSymbol) := by
  have wildcard : ("%" : String).toList = Symbol.written (.character '%') := by decide
  rw [← symbols_written (placement.around _)]
  refine congrArg symbols ?_
  cases placement with
  | anywhere =>
    rw [Placement.pattern, Placement.withWildcards, Placement.around, String.toList_append,
      String.toList_append, toList_literalPattern, wildcard, List.flatMap_cons,
      List.flatMap_append, List.flatMap_singleton, List.append_assoc]
  | atStart =>
    rw [Placement.pattern, Placement.withWildcards, Placement.around, String.toList_append,
      toList_literalPattern, wildcard, List.flatMap_append, List.flatMap_singleton]
  | atEnd =>
    rw [Placement.pattern, Placement.withWildcards, Placement.around, String.toList_append,
      toList_literalPattern, wildcard, List.flatMap_cons]

/-! ### Conditions as they are written -/

/-- The lexemes of a search in a column: the words that are outside of all literals, then the
pattern. -/
def searchLexemes (column : Reference) (negated : Bool) (pattern : String) : List Lexeme :=
  lexemesOf [.words (column.text ++ if negated then " NOT ILIKE " else " ILIKE "),
    .literal pattern]

/-- A written condition reads as a search in a column, and it lets a subject in if and only if a
proposition holds. -/
def SearchesFor (alike : Symbol → Symbol → Bool) (column : Reference) (written : String)
    (subject : List Symbol) (proposition : Prop) : Prop :=
  ∃ negated pattern, lex written = some (searchLexemes column negated pattern) ∧
    (likes alike (symbols pattern.toList) subject = !negated ↔ proposition)

theorem searchesFor_render (alike : Symbol → Symbol → Bool) (column : Reference)
    (placement : Placement) (text subject : List Symbol) :
    SearchesFor alike column
      (Condition.search column false placement (ofSymbols text)).render subject
      (placement.Finds alike text subject) := by
  have written := writes_search column false placement (ofSymbols text)
  refine ⟨false, placement.pattern (ofSymbols text), ?_, ?_⟩
  · rw [written.same, lex_written written.apart]
    rfl
  · rw [symbols_pattern]
    exact likes_around_iff placement

theorem searchesFor_render_negated (alike : Symbol → Symbol → Bool) (column : Reference)
    (placement : Placement) (text subject : List Symbol) :
    SearchesFor alike column
      (Condition.search column true placement (ofSymbols text)).render subject
      (¬placement.Finds alike text subject) := by
  have written := writes_search column true placement (ofSymbols text)
  refine ⟨true, placement.pattern (ofSymbols text), ?_, ?_⟩
  · rw [written.same, lex_written written.apart]
    rfl
  · rw [symbols_pattern, Bool.not_true, ← likes_around_iff placement, Bool.not_eq_true]

/-- A search with a text has a condition as soon as its property has a column. -/
theorem condition?_text {property : String} {column : Reference}
    (mapped : filterColumn? property = some column) (user : Option Int) (kind : FixedKind)
    (text : String) :
    condition? user ⟨property, .fixed kind, .text text⟩ =
      fixedCondition? column (.text text) user kind :=
  condition?_of_taken mapped (Bool.or_true _) user

/-- Whatever the text of a filter is, its written condition finds the text as it stands: anywhere,
nowhere, at the start or at the end of the subject. -/
theorem search_finds_literally (alike : Symbol → Symbol → Bool) {property : String}
    {column : Reference} (mapped : filterColumn? property = some column) (user : Option Int)
    (text subject : List Symbol) :
    let searches (kind : FixedKind) (proposition : Prop) : Prop :=
      ∃ condition ∈ condition? user ⟨property, .fixed kind, .text (ofSymbols text)⟩,
        SearchesFor alike column condition.render subject proposition
    searches .contains (Placement.anywhere.Finds alike text subject) ∧
      searches .notContains (¬Placement.anywhere.Finds alike text subject) ∧
      searches .startsWith (Placement.atStart.Finds alike text subject) ∧
      searches .endsWith (Placement.atEnd.Finds alike text subject) := by
  intro searches
  have condition := condition?_text mapped user
  refine ⟨?_, ?_, ?_, ?_⟩
  · exact ⟨_, condition .contains _, searchesFor_render alike column .anywhere text subject⟩
  · exact ⟨_, condition .notContains _,
      searchesFor_render_negated alike column .anywhere text subject⟩
  · exact ⟨_, condition .startsWith _, searchesFor_render alike column .atStart text subject⟩
  · exact ⟨_, condition .endsWith _, searchesFor_render alike column .atEnd text subject⟩

/-- Letters count as the same in upper and lower case. -/
def sameLetter : Symbol → Symbol → Bool
  | .character letter, .character other => letter.toLower == other.toLower
  | symbol, other => symbol == other

/-- A text of wildcards, a backslash and a quote is found in upper case, and no wildcard of it
stands for anything else. -/
theorem search_finds_literally_wildcards :
    filterColumn? "subject" = some (.item .subject) ∧
      (∃ condition ∈ condition? none ⟨"subject", .fixed .startsWith, .text "a%_\\'b"⟩,
        SearchesFor sameLetter (.item .subject) condition.render (symbols "A%_\\'Bc".toList) True) ∧
      ∃ condition ∈ condition? none ⟨"subject", .fixed .startsWith, .text "a%_\\'b"⟩,
        SearchesFor sameLetter (.item .subject) condition.render (symbols "a%%\\'b".toList) False := by
  have mapped : filterColumn? "subject" = some (.item .subject) := by decide
  have text : "a%_\\'b" = ofSymbols (symbols "a%_\\'b".toList) := by decide +kernel
  have searched (subject : List Symbol) := (search_finds_literally sameLetter mapped none
    (symbols "a%_\\'b".toList) subject).2.2.1
  rw [← text] at searched
  refine ⟨mapped, ?_, ?_⟩
  · have found := searched (symbols "A%_\\'Bc".toList)
    rwa [eq_true ((likes_around_iff _).mp (by decide +kernel))] at found
  · have missed := searched (symbols "a%%\\'b".toList)
    rwa [eq_false (mt (likes_around_iff _).mpr (by decide +kernel))] at missed

end WorkQuery.Sql
