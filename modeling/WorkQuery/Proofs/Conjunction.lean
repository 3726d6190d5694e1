/-
This file proves that conditions keep their meaning when they are joined. They are joined without
brackets, so the text is read back here by the rule of the language: outside of brackets and
literals an `AND` parts two conditions, unless it belongs to a `BETWEEN` before it, and nothing
binds as loosely as an `OR` would. Each condition comes to its end before the next one starts
(`isRead`), so that the whole is read as what its conditions are read as alone, one after the other
(`conjuncts?_whereText`), and holds exactly if each of them does (`textHolds_whereText`).
-/

import WorkQuery.Proofs.CompactRoundTrip
import WorkQuery.Proofs.WhereClause

namespace WorkQuery.Sql

open Number

/-! ### Tokens -/

/-- A token of a statement: a word between blanks, a bracket or comma, or a literal. -/
inductive Token
  | word (text : String)
  | bracket (character : Char)
  | literal (text : String)
deriving DecidableEq, Repr

/-- The word that has been read so far, if there is one. -/
def endedWord (word : List Char) : List Token :=
  if word.isEmpty then [] else [.word (String.ofList word)]

/-- What a character stands for that is part of no word. -/
def separator? (character : Char) : Option (List Token) :=
  if character.isWhitespace then some []
  else if isBracket character then some [.bracket character]
  else none

/-- The tokens of lexemes, for the characters of the word that has been read so far. -/
def tokensFrom (word : List Char) : List Lexeme → List Token
  | [] => endedWord word
  | .literal text :: rest => endedWord word ++ .literal text :: tokensFrom [] rest
  | .outside character :: rest =>
    match separator? character with
    | some tokens => endedWord word ++ tokens ++ tokensFrom [] rest
    | none => tokensFrom (word ++ [character]) rest

theorem separator?_blank : separator? ' ' = some [] := by
  decide

/-- A blank or a bracket ends the word before it, and nothing is carried over. -/
theorem tokensFrom_separator (word : List Char) (lexemes rest : List Lexeme) {character : Char}
    {tokens : List Token} (separates : separator? character = some tokens) :
    tokensFrom word (lexemes ++ .outside character :: rest) =
      tokensFrom word lexemes ++ (tokens ++ tokensFrom [] rest) := by
  induction lexemes generalizing word with
  | nil => simp only [List.nil_append, tokensFrom, separates, List.append_assoc]
  | cons lexeme lexemes inductionHypothesis =>
    rw [List.cons_append]
    cases lexeme with
    | literal text =>
      simp only [tokensFrom, inductionHypothesis, List.append_assoc, List.cons_append]
    | outside other =>
      simp only [tokensFrom, inductionHypothesis]
      cases separator? other with
      | some between => simp only [List.append_assoc]
      | none => rfl

/-! ### Conjuncts -/

/-- Where a reader stands: how many brackets are open, and whether a range lacks its second end. -/
structure Nesting where
  depth : Nat
  awaits : Bool
deriving DecidableEq

namespace Nesting

/-- The place between two conditions. -/
def outside : Nesting := ⟨0, false⟩

/-- The place behind a token. -/
def after (nesting : Nesting) : Token → Nesting
  | .bracket '(' => { nesting with depth := nesting.depth + 1 }
  | .bracket ')' => { nesting with depth := nesting.depth - 1 }
  | .word "BETWEEN" => if nesting.depth = 0 then { nesting with awaits := true } else nesting
  | .word "AND" => if nesting.depth = 0 then { nesting with awaits := false } else nesting
  | _ => nesting

end Nesting

/-- The conjuncts of tokens: they part at each `AND` outside of brackets that belongs to no
range. -/
def split (nesting : Nesting) : List Token → List (List Token)
  | [] => [[]]
  | token :: rest =>
    if token = .word "AND" ∧ nesting = .outside then [] :: split .outside rest
    else
      match split (nesting.after token) rest with
      | [] => [[token]]
      | first :: others => (token :: first) :: others

/-- The conjuncts of a text; none if the text is no conjunction. -/
def conjuncts? (text : String) : Option (List (List Token)) := do
  let tokens := tokensFrom [] (← lex text)
  if tokens.contains (.word "OR") then none
  else if tokens.isEmpty then some []
  else some (split .outside tokens)

theorem split_ne_nil (nesting : Nesting) (tokens : List Token) : split nesting tokens ≠ [] := by
  cases tokens with
  | nil => exact List.cons_ne_nil _ _
  | cons token rest =>
    rw [split]
    split
    · exact List.cons_ne_nil _ _
    · split <;> exact List.cons_ne_nil _ _

/-- Tokens that come to their end are read alone, whatever follows the `AND` behind them. -/
theorem split_append {nesting : Nesting} {tokens : List Token} (rest : List Token)
    (ended : tokens.foldl Nesting.after nesting = .outside) :
    split nesting (tokens ++ .word "AND" :: rest) =
      split nesting tokens ++ split .outside rest := by
  induction tokens generalizing nesting with
  | nil =>
    obtain rfl : nesting = .outside := ended
    rfl
  | cons token tokens inductionHypothesis =>
    rw [List.cons_append, split, split]
    split
    · rename_i parts
      obtain ⟨rfl, rfl⟩ := parts
      exact congrArg (List.cons []) (inductionHypothesis ended)
    · rw [inductionHypothesis ended]
      obtain ⟨first, others, same⟩ :=
        List.exists_cons_of_ne_nil (split_ne_nil (nesting.after token) tokens)
      rw [same]
      rfl

/-- Tokens of a condition: there are some, they come to their end, and none of them is an `OR`. -/
structure IsClause (tokens : List Token) : Prop where
  nonempty : tokens ≠ []
  ended : tokens.foldl Nesting.after .outside = .outside
  noAlternative : .word "OR" ∉ tokens

theorem split_intercalate {clauses : List (List Token)} (nonempty : clauses ≠ [])
    (each : ∀ tokens ∈ clauses, IsClause tokens) :
    split .outside (List.intercalate [.word "AND"] clauses) = clauses.flatMap (split .outside) := by
  induction clauses with
  | nil => exact absurd rfl nonempty
  | cons tokens clauses inductionHypothesis =>
    obtain ⟨first, others⟩ := List.forall_mem_cons.mp each
    cases clauses with
    | nil => rw [List.intercalate_singleton, List.flatMap_singleton]
    | cons next rest =>
      rw [List.intercalate_cons_cons, List.append_assoc, List.singleton_append,
        split_append _ first.ended, inductionHypothesis (List.cons_ne_nil _ _) others]
      rfl

/-! ### Operands -/

/-- A word of small letters, digits and signs. -/
structure IsOrdinary (text : String) : Prop where
  nonempty : text ≠ ""
  inside : ∀ character ∈ text.toList, separator? character = none
  notCapital : ∀ character ∈ text.toList, character.isUpper = false

theorem IsOrdinary.ne {text keyword : String} (ordinary : IsOrdinary text)
    (capital : keyword.toList.any Char.isUpper = true) : text ≠ keyword := by
  rintro rfl
  obtain ⟨character, member, isUpper⟩ := List.any_eq_true.mp capital
  rw [ordinary.notCapital character member] at isUpper
  cases isUpper

theorem tokensFrom_inside {characters : List Char}
    (inside : ∀ character ∈ characters, separator? character = none) (word : List Char)
    (rest : List Lexeme) :
    tokensFrom word (characters.map .outside ++ rest) = tokensFrom (word ++ characters) rest := by
  induction characters generalizing word with
  | nil => rw [List.map_nil, List.nil_append, List.append_nil]
  | cons character characters inductionHypothesis =>
    obtain ⟨first, others⟩ := List.forall_mem_cons.mp inside
    rw [List.map_cons, List.cons_append, tokensFrom, first]
    dsimp only
    rw [inductionHypothesis others, List.append_assoc, List.singleton_append]

/-- An ordinary word is read as one. -/
theorem tokensFrom_ordinary {text : String} (ordinary : IsOrdinary text) :
    tokensFrom [] (text.toList.map .outside) = [.word text] := by
  have read := tokensFrom_inside ordinary.inside [] []
  rw [List.append_nil] at read
  have present : text.toList.isEmpty = false :=
    List.isEmpty_eq_false_iff.mpr fun empty => ordinary.nonempty (String.toList_eq_nil_iff.mp empty)
  rw [read, List.nil_append, tokensFrom, endedWord, present, String.ofList_toList]
  rfl

theorem separator?_of_isPlain {character : Char} (plain : IsPlain character) :
    separator? character = none := by
  have visible : character.isWhitespace = false := by
    rw [Bool.eq_false_iff]
    intro blank
    have isSpace := Text.isSpace_of_isWhitespace character blank
    rw [plain.notBlank] at isSpace
    cases isSpace
  rw [separator?, visible, plain.notBracket]
  rfl

theorem isOrdinary_of_allPlain {text : String} (nonempty : text ≠ "") (plain : AllPlain text) :
    IsOrdinary text :=
  ⟨nonempty, fun character member => separator?_of_isPlain (plain character member),
    fun character member => (plain character member).notCapital⟩

/-- Whether a character may be part of an ordinary word. -/
def isOrdinaryCharacter (character : Char) : Bool :=
  (separator? character).isNone && !character.isUpper

theorem isOrdinary_of_all {text : String} (nonempty : text ≠ "")
    (all : text.toList.all isOrdinaryCharacter = true) : IsOrdinary text := by
  have each (character : Char) (member : character ∈ text.toList) :
      separator? character = none ∧ character.isUpper = false := by
    have ordinary := List.all_eq_true.mp all character member
    rw [isOrdinaryCharacter, Bool.and_eq_true, Option.isNone_iff_eq_none,
      Bool.not_eq_true'] at ordinary
    exact ordinary
  exact ⟨nonempty, fun character member => (each character member).1,
    fun character member => (each character member).2⟩

theorem isOrdinary_column (column : Reference) : IsOrdinary column.text := by
  cases column with
  | item field => cases field <;> exact isOrdinary_of_all (by decide) (by decide +kernel)
  | _ => exact isOrdinary_of_all (by decide) (by decide +kernel)

/-- Tokens that leave a reader where it is, and none of which is an `OR`. -/
structure IsNeutral (tokens : List Token) : Prop where
  ended : ∀ nesting : Nesting, tokens.foldl Nesting.after nesting = nesting
  noAlternative : .word "OR" ∉ tokens

theorem IsNeutral.append {first second : List Token} (neutral : IsNeutral first)
    (neutral' : IsNeutral second) : IsNeutral (first ++ second) := by
  constructor
  · intro nesting
    rw [List.foldl_append, neutral.ended, neutral'.ended]
  · exact List.not_mem_append neutral.noAlternative neutral'.noAlternative

theorem isNeutral_ordinary {text : String} (ordinary : IsOrdinary text) :
    IsNeutral [.word text] := by
  have notRange : text ≠ "BETWEEN" := ordinary.ne (by decide)
  have notBoth : text ≠ "AND" := ordinary.ne (by decide)
  have notEither : text ≠ "OR" := ordinary.ne (by decide)
  constructor
  · intro nesting
    rw [List.foldl_cons, List.foldl_nil, Nesting.after]
    all_goals simp_all
  · simpa using notEither.symm

theorem isNeutral_literal (text : String) : IsNeutral [.literal text] :=
  ⟨fun _ => rfl, by simp⟩

/-- A literal of a condition is read as one neutral token. -/
theorem isNeutral_part (literal : Literal) : IsNeutral (tokensFrom [] literal.part.lexemes) ∧
    tokensFrom [] literal.part.lexemes ≠ [] := by
  have ofOrdinary {text : String} (ordinary : IsOrdinary text) :
      IsNeutral (tokensFrom [] (text.toList.map .outside)) ∧
        tokensFrom [] (text.toList.map .outside) ≠ [] := by
    rw [tokensFrom_ordinary ordinary]
    exact ⟨isNeutral_ordinary ordinary, List.cons_ne_nil _ _⟩
  cases literal with
  | text value => exact ⟨isNeutral_literal value, List.cons_ne_nil _ _⟩
  | integer value =>
    exact ofOrdinary (isOrdinary_of_allPlain (integerText_ne_empty value)
      (Binary64.allPlain_integerText value))
  | decimal value =>
    exact ofOrdinary (isOrdinary_of_allPlain (CompactForm.text_ne_empty value)
      (Binary64.allPlain_text value))
  | truth value =>
    cases value <;> exact ofOrdinary (isOrdinary_of_all (by decide) (by decide))

/-! ### Conditions -/

theorem IsNeutral.isClause {tokens : List Token} (neutral : IsNeutral tokens)
    (nonempty : tokens ≠ []) : IsClause tokens :=
  ⟨nonempty, neutral.ended .outside, neutral.noAlternative⟩

theorem IsNeutral.isClause_column {tokens : List Token} (neutral : IsNeutral tokens)
    (column : Reference) : IsClause ([.word column.text] ++ tokens) :=
  ((isNeutral_ordinary (isOrdinary_column column)).append neutral).isClause (List.cons_ne_nil _ _)

/-- The name of a column is read as one word, and what follows it is read by itself. -/
theorem tokens_column (column : Reference) (words : String)
    (begins : words.toList.head? = some ' ') (parts : List Part) :
    tokensFrom [] (lexemesOf (.words (column.text ++ words) :: parts)) =
      [.word column.text] ++
        tokensFrom [] ((words.toList.drop 1).map .outside ++ lexemesOf parts) := by
  have characters : words.toList = ' ' :: words.toList.drop 1 := by
    obtain ⟨rest, same⟩ := List.head?_eq_some_iff.mp begins
    rw [same]
    rfl
  have lexemes : lexemesOf (.words (column.text ++ words) :: parts) =
      column.text.toList.map .outside ++
        .outside ' ' :: ((words.toList.drop 1).map .outside ++ lexemesOf parts) := by
    rw [lexemesOf, List.flatMap_cons, Part.lexemes, String.toList_append, List.map_append,
      List.append_assoc, congrArg (List.map Lexeme.outside) characters]
    rfl
  rw [lexemes, tokensFrom_separator [] _ _ separator?_blank,
    tokensFrom_ordinary (isOrdinary_column column)]
  rfl

/-- Whether a condition is written as tokens of a condition. -/
def Condition.IsRead (condition : Condition) : Prop :=
  ∃ parts, Writes condition parts ∧ IsClause (tokensFrom [] (lexemesOf parts))

theorem isOrdinary_symbol (comparison : Comparison) : IsOrdinary comparison.symbol := by
  cases comparison <;> exact isOrdinary_of_all (by decide) (by decide)

theorem isRead_compare (column : Reference) (comparison : Comparison) (literal : Literal) :
    (Condition.compare column comparison literal).IsRead := by
  refine ⟨_, writes_compare column comparison literal, ?_⟩
  have lexemes : (" " ++ (comparison.symbol ++ " ")).toList.drop 1 =
      comparison.symbol.toList ++ [' '] := by
    simp
  have symbol := isOrdinary_symbol comparison
  rw [String.append_assoc, String.append_assoc, tokens_column column _ (by simp), lexemes,
    List.map_append, List.append_assoc]
  change IsClause ([Token.word column.text] ++ tokensFrom []
    (comparison.symbol.toList.map .outside ++ .outside ' ' :: (literal.part.lexemes ++ [])))
  rw [tokensFrom_separator [] _ _ separator?_blank, tokensFrom_ordinary symbol, List.append_nil]
  exact ((isNeutral_ordinary symbol).append (isNeutral_part literal).1).isClause_column column

theorem isRead_between (column : Reference) (first last : Calendar.Date) :
    (Condition.between column first last).IsRead := by
  refine ⟨_, writes_between column first last, ?_⟩
  have range : tokensFrom [] ((" BETWEEN ".toList.drop 1).map .outside ++ lexemesOf
      [.literal first.text, .words " AND ", .literal last.text]) =
      [Token.word "BETWEEN", .literal first.text, .word "AND", .literal last.text] := by
    simp [lexemesOf, Part.lexemes, tokensFrom, separator?, isBracket, endedWord]
  have neutral := isNeutral_ordinary (isOrdinary_column column)
  rw [tokens_column column _ (by simp), range]
  refine ⟨List.cons_ne_nil _ _, ?_, List.not_mem_append neutral.noAlternative (by simp)⟩
  rw [List.foldl_append, neutral.ended]
  rfl

theorem lexemesOf_words_append (first second : String) (parts : List Part) :
    lexemesOf (.words (first ++ second) :: parts) =
      first.toList.map .outside ++ lexemesOf (.words second :: parts) := by
  rw [lexemesOf, List.flatMap_cons, Part.lexemes, String.toList_append, List.map_append,
    List.append_assoc]
  rfl

/-- The tokens of the start of this week. -/
def weekTokens : List Token :=
  [.word "date_trunc", .bracket '(', .literal "week", .bracket ',', .word "CURRENT_DATE",
    .bracket ')']

theorem isRead_thisWeek (column : Reference) : (Condition.thisWeek column).IsRead := by
  refine ⟨_, writes_thisWeek column, ?_⟩
  have second : tokensFrom [] ((" < date_trunc(".toList.drop 1).map .outside ++ lexemesOf
      [.literal "week", .words ", CURRENT_DATE) + interval ", .literal "1 week"]) =
      Token.word "<" :: (weekTokens ++ [.word "+", .word "interval", .literal "1 week"]) := by
    simp [lexemesOf, Part.lexemes, tokensFrom, separator?, isBracket, endedWord, weekTokens]
  have first (rest : List Lexeme) : tokensFrom [] ((" >= date_trunc(".toList.drop 1).map .outside ++
      .literal "week" :: (", CURRENT_DATE) AND ".toList.map .outside ++ rest)) =
      Token.word ">=" :: (weekTokens ++ .word "AND" :: tokensFrom [] rest) := by
    simp [tokensFrom, separator?, isBracket, endedWord, weekTokens]
  have literal (text : String) (rest : List Part) :
      lexemesOf (.literal text :: rest) = .literal text :: lexemesOf rest := rfl
  have neutral := isNeutral_ordinary (isOrdinary_column column)
  rw [thisWeekTemplate, tokens_column column _ (by simp), String.append_assoc, literal,
    lexemesOf_words_append, first, tokens_column column _ (by simp), second]
  refine ⟨List.cons_ne_nil _ _, ?_, ?_⟩
  · rw [List.foldl_append, neutral.ended]
    change List.foldl Nesting.after .outside ([Token.word column.text] ++ _) = _
    rw [List.foldl_append, neutral.ended]
    rfl
  · have different : column.text ≠ "OR" := (isOrdinary_column column).ne (by decide)
    simp [weekTokens, different.symm]

theorem isRead_search (column : Reference) (negated : Bool) (placement : Placement)
    (text : String) : (Condition.search column negated placement text).IsRead := by
  refine ⟨_, writes_search column negated placement text, ?_⟩
  have tokens : tokensFrom [] (((if negated then " NOT ILIKE " else " ILIKE ").toList.drop 1).map
      .outside ++ lexemesOf [.literal (placement.pattern text)]) =
      (if negated then [Token.word "NOT"] else []) ++
        [.word "ILIKE", .literal (placement.pattern text)] := by
    cases negated <;>
      simp [lexemesOf, Part.lexemes, tokensFrom, separator?, isBracket, endedWord]
  have neutral : IsNeutral ((if negated then [Token.word "NOT"] else []) ++
      [.word "ILIKE", .literal (placement.pattern text)]) := by
    cases negated <;> exact ⟨fun _ => rfl, by simp⟩
  rw [tokens_column column _ (by cases negated <;> simp), tokens]
  exact neutral.isClause_column column

theorem writes_relative_days (column : Reference) (comparison : Comparison) (side : Side)
    (days : Int) :
    Writes (.relative column comparison side days)
      [.words (column.text ++ (" " ++ comparison.symbol ++ " CURRENT_DATE " ++ side.symbol ++
        " interval ")), .literal (integerText days ++ " days")] := by
  have escaped := flatMap_escapedCharacter (notMem_quote_integerText days)
  have unquoted : '\'' ∉ comparison.symbol.toList ∧ '\'' ∉ side.symbol.toList := by
    constructor
    · cases comparison <;> decide
    · cases side <;> decide
  constructor
  · refine String.toList_inj.mp ?_
    simp [Condition.render, Part.written, quote, toList_escapeText, escaped, escapedCharacter]
  · exact .words (notMem_quote_append (notMem_quote_text column) (by simp [unquoted])) (.last _)

theorem isRead_relative (column : Reference) (comparison : Comparison) (side : Side)
    (days : Int) : (Condition.relative column comparison side days).IsRead := by
  refine ⟨_, writes_relative_days column comparison side days, ?_⟩
  have characters : (" " ++ comparison.symbol ++ " CURRENT_DATE " ++ side.symbol ++
      " interval ").toList.drop 1 = comparison.symbol.toList ++ ' ' :: ("CURRENT_DATE".toList ++
        ' ' :: (side.symbol.toList ++ ' ' :: "interval ".toList)) := by
    simp
  have today : tokensFrom [] ("CURRENT_DATE".toList.map .outside) = [.word "CURRENT_DATE"] := by
    simp [tokensFrom, separator?, isBracket, endedWord]
  have interval : tokensFrom [] ("interval ".toList.map .outside ++
      lexemesOf [.literal (integerText days ++ " days")]) =
      [.word "interval", .literal (integerText days ++ " days")] := by
    simp [lexemesOf, Part.lexemes, tokensFrom, separator?, isBracket, endedWord]
  have symbol := isOrdinary_symbol comparison
  have sign : IsOrdinary side.symbol := by
    cases side <;> exact isOrdinary_of_all (by decide) (by decide)
  rw [tokens_column column _ (by simp), characters]
  simp only [List.map_append, List.map_cons, List.append_assoc, List.cons_append]
  rw [tokensFrom_separator [] _ _ separator?_blank, tokensFrom_separator [] _ _ separator?_blank,
    tokensFrom_separator [] _ _ separator?_blank, tokensFrom_ordinary symbol,
    tokensFrom_ordinary sign, today, interval]
  have words : IsNeutral [.word "CURRENT_DATE"] := ⟨fun _ => rfl, by simp⟩
  have last : IsNeutral [.word "interval", .literal (integerText days ++ " days")] :=
    ⟨fun _ => rfl, by simp⟩
  have neutral := (isNeutral_ordinary symbol).append
    (words.append ((isNeutral_ordinary sign).append last))
  exact neutral.isClause_column column

/-- A condition that is a column with words behind it. -/
theorem isRead_words {condition : Condition} (column : Reference) (words : String)
    (tokens : List Token) (same : condition.render = column.text ++ words)
    (unquoted : '\'' ∉ words.toList) (begins : words.toList.head? = some ' ')
    (read : tokensFrom [] ((words.toList.drop 1).map .outside ++ lexemesOf []) = tokens)
    (neutral : IsNeutral tokens) : condition.IsRead := by
  refine ⟨_, .words same (notMem_quote_append (notMem_quote_text column) unquoted), ?_⟩
  rw [tokens_column column words begins, read]
  exact neutral.isClause_column column

theorem IsNeutral.bracketed {tokens : List Token} (neutral : IsNeutral tokens) :
    IsNeutral (.bracket '(' :: (tokens ++ [.bracket ')'])) := by
  constructor
  · intro nesting
    rw [List.foldl_cons, List.foldl_append, neutral.ended]
    rfl
  · have opening : Token.word "OR" ∉ [Token.bracket '('] := by simp
    exact List.not_mem_append opening (List.not_mem_append neutral.noAlternative (by simp))

theorem isNeutral_literals (literals : List Literal) :
    IsNeutral (tokensFrom [] (lexemesOf
      (List.intercalate [.words ", "] ((literals.map Literal.part).map ([·]))))) := by
  induction literals with
  | nil => exact ⟨fun _ => rfl, by simp [lexemesOf, tokensFrom, endedWord]⟩
  | cons literal literals inductionHypothesis =>
    have single := (isNeutral_part literal).1
    cases literals with
    | nil =>
      rw [List.map_singleton, List.map_singleton, List.intercalate_singleton, lexemesOf,
        List.flatMap_singleton]
      exact single
    | cons next rest =>
      have comma : separator? ',' = some [.bracket ','] := by decide
      rw [List.map_cons, List.map_cons] at inductionHypothesis
      rw [List.map_cons, List.map_cons, List.map_cons, List.map_cons, List.intercalate_cons_cons]
      change IsNeutral (tokensFrom [] (literal.part.lexemes ++ .outside ',' :: .outside ' ' ::
        lexemesOf _))
      rw [tokensFrom_separator [] _ _ comma]
      refine single.append (IsNeutral.append ⟨fun _ => rfl, by simp⟩ ?_)
      exact inductionHypothesis

theorem isRead_member (column : Reference) (negated : Bool) (literals : List Literal) :
    (Condition.member column negated literals).IsRead := by
  refine ⟨_, writes_member column negated literals, ?_⟩
  have close : separator? ')' = some [.bracket ')'] := by decide
  have tokens (lexemes : List Lexeme) :
      tokensFrom [] (((if negated then " NOT IN (" else " IN (").toList.drop 1).map .outside ++
        lexemes) = (if negated then [Token.word "NOT", .word "IN"] else [.word "IN"]) ++
          .bracket '(' :: tokensFrom [] lexemes := by
    cases negated <;> simp [tokensFrom, separator?, isBracket, endedWord]
  have words : IsNeutral (if negated then [Token.word "NOT", .word "IN"] else [.word "IN"]) := by
    cases negated <;> exact ⟨fun _ => rfl, by simp⟩
  rw [tokens_column column _ (by cases negated <;> simp), tokens, lexemesOf, List.flatMap_append]
  change IsClause ([Token.word column.text] ++ (_ ++ .bracket '(' ::
    tokensFrom [] (lexemesOf _ ++ .outside ')' :: [])))
  rw [tokensFrom_separator [] _ _ close]
  exact (words.append (isNeutral_literals literals).bracketed).isClause_column column

/-- Every condition comes to its end. -/
theorem isRead (condition : Condition) : condition.IsRead := by
  cases condition with
  | never =>
    refine ⟨[.words "1 = 0"], .words rfl (by decide), ?_⟩
    have tokens : tokensFrom [] (lexemesOf [.words "1 = 0"]) =
        [Token.word "1", .word "=", .word "0"] := by
      simp [lexemesOf, Part.lexemes, tokensFrom, separator?, isBracket, endedWord]
    rw [tokens]
    exact ⟨List.cons_ne_nil _ _, rfl, by simp⟩
  | compare column comparison literal => exact isRead_compare column comparison literal
  | member column negated literals => exact isRead_member column negated literals
  | search column negated placement text => exact isRead_search column negated placement text
  | between column first last => exact isRead_between column first last
  | null column negated =>
    cases negated with
    | false =>
      refine isRead_words column " IS NULL" [.word "IS", .word "NULL"] rfl (by decide) (by decide)
        ?_ ⟨fun _ => rfl, by simp⟩
      simp [lexemesOf, tokensFrom, separator?, isBracket, endedWord]
    | true =>
      refine isRead_words column " IS NOT NULL" [.word "IS", .word "NOT", .word "NULL"] rfl
        (by decide) (by decide) ?_ ⟨fun _ => rfl, by simp⟩
      simp [lexemesOf, tokensFrom, separator?, isBracket, endedWord]
  | today column =>
    refine isRead_words column " = CURRENT_DATE" [.word "=", .word "CURRENT_DATE"] rfl (by decide)
      (by decide) ?_ ⟨fun _ => rfl, by simp⟩
    simp [lexemesOf, tokensFrom, separator?, isBracket, endedWord]
  | thisWeek column => exact isRead_thisWeek column
  | relative column comparison side days => exact isRead_relative column comparison side days

/-! ### Texts of several conditions -/

theorem IsClause.append {first second : List Token} (clause : IsClause first)
    (clause' : IsClause second) : IsClause (first ++ [.word "AND"] ++ second) := by
  refine ⟨?_, ?_, ?_⟩
  · simp
  · rw [List.foldl_append, List.foldl_append, clause.ended]
    exact clause'.ended
  · exact List.not_mem_append (List.not_mem_append clause.noAlternative (by simp))
      clause'.noAlternative

theorem isClause_intercalate {clauses : List (List Token)} (nonempty : clauses ≠ [])
    (each : ∀ tokens ∈ clauses, IsClause tokens) :
    IsClause (List.intercalate [.word "AND"] clauses) := by
  induction clauses with
  | nil => exact absurd rfl nonempty
  | cons tokens clauses inductionHypothesis =>
    obtain ⟨first, others⟩ := List.forall_mem_cons.mp each
    cases clauses with
    | nil => rwa [List.intercalate_singleton]
    | cons next rest =>
      rw [List.intercalate_cons_cons]
      exact first.append (inductionHypothesis (List.cons_ne_nil _ _) others)

/-- Templates with a separator between them are read one after the other, if the separator ends the
word before it and nothing of it is carried over. -/
theorem tokensFrom_separated {separator : String} {between : List Token}
    (separates : ∀ before after : List Lexeme,
      tokensFrom [] (before ++ (separator.toList.map .outside ++ after)) =
        tokensFrom [] before ++ (between ++ tokensFrom [] after)) (templates : List (List Part)) :
    tokensFrom [] (lexemesOf (List.intercalate [.words separator] templates)) =
      List.intercalate between (templates.map fun parts => tokensFrom [] (lexemesOf parts)) := by
  induction templates with
  | nil => rfl
  | cons parts templates inductionHypothesis =>
    cases templates with
    | nil => rw [List.intercalate_singleton, List.map_singleton, List.intercalate_singleton]
    | cons next rest =>
      have lexemes : lexemesOf (parts ++ [.words separator] ++
          List.intercalate [.words separator] (next :: rest)) =
          lexemesOf parts ++ (separator.toList.map .outside ++
            lexemesOf (List.intercalate [.words separator] (next :: rest))) := by
        rw [lexemesOf, List.append_assoc, List.flatMap_append, List.flatMap_append,
          List.flatMap_singleton]
        rfl
      rw [List.intercalate_cons_cons, lexemes, separates, inductionHypothesis]
      simp only [List.map_cons, List.intercalate_cons_cons, List.append_assoc]

theorem tokensFrom_intercalate (templates : List (List Part)) :
    tokensFrom [] (lexemesOf (List.intercalate [.words " AND "] templates)) =
      List.intercalate [.word "AND"]
        (templates.map fun parts => tokensFrom [] (lexemesOf parts)) := by
  refine tokensFrom_separated (fun before after => ?_) templates
  have keyword : tokensFrom [] ("AND ".toList.map .outside ++ after) =
      [.word "AND"] ++ tokensFrom [] after := by
    simp [tokensFrom, separator?, isBracket, endedWord]
  rw [← keyword]
  exact tokensFrom_separator [] before _ separator?_blank

theorem conjuncts?_of_isClause {text : String} {lexemes : List Lexeme}
    (read : lex text = some lexemes) (clause : IsClause (tokensFrom [] lexemes)) :
    conjuncts? text = some (split .outside (tokensFrom [] lexemes)) := by
  have noAlternative : (tokensFrom [] lexemes).contains (.word "OR") = false := by
    rw [Bool.eq_false_iff]
    exact fun member => clause.noAlternative (List.contains_iff_mem.mp member)
  rw [conjuncts?, read]
  change (if _ then _ else _) = _
  rw [noAlternative, List.isEmpty_eq_false_iff.mpr clause.nonempty]
  rfl

/-- The conjuncts of a condition that stands alone. -/
def Condition.conjuncts (condition : Condition) : List (List Token) :=
  (conjuncts? condition.render).getD []

theorem conjuncts?_render (condition : Condition) :
    conjuncts? condition.render = some condition.conjuncts := by
  obtain ⟨parts, writes, clause⟩ := isRead condition
  have read := lex_written writes.apart
  rw [← writes.same] at read
  rw [Condition.conjuncts, conjuncts?_of_isClause read clause, Option.getD_some]

/-- Conditions are written as templates that come to their end. -/
theorem exists_templates (conditions : List Condition) :
    ∃ templates : List (List Part), List.Forall₂ Writes conditions templates ∧
      (∀ parts ∈ templates, IsClause (tokensFrom [] (lexemesOf parts))) ∧
      conditions.flatMap Condition.conjuncts =
        templates.flatMap fun parts => split .outside (tokensFrom [] (lexemesOf parts)) := by
  induction conditions with
  | nil => exact ⟨[], .nil, List.forall_mem_nil _, rfl⟩
  | cons condition conditions inductionHypothesis =>
    obtain ⟨templates, related, clauses, same⟩ := inductionHypothesis
    obtain ⟨parts, writes, clause⟩ := isRead condition
    have read := lex_written writes.apart
    rw [← writes.same] at read
    refine ⟨parts :: templates, .cons writes related, ?_, ?_⟩
    · exact List.forall_mem_cons.mpr ⟨clause, clauses⟩
    · rw [List.flatMap_cons, List.flatMap_cons, same, Condition.conjuncts,
        conjuncts?_of_isClause read clause, Option.getD_some]

/-- Conditions that are joined are read as what they are read as alone, one after the other. -/
theorem conjuncts?_whereText (conditions : List Condition) :
    conjuncts? (whereText conditions) = some (conditions.flatMap Condition.conjuncts) := by
  cases conditions with
  | nil => rfl
  | cons condition conditions =>
    obtain ⟨templates, related, clauses, same⟩ := exists_templates (condition :: conditions)
    obtain ⟨same', apart⟩ := writes_whereText related
    have nonempty : templates ≠ [] := by
      rintro rfl
      cases related
    have read : lex (whereText (condition :: conditions)) =
        some (lexemesOf (List.intercalate [.words " AND "] templates)) := by
      rw [same']
      exact lex_written apart
    have mapped : templates.map (fun parts => tokensFrom [] (lexemesOf parts)) ≠ [] :=
      fun empty => nonempty (List.map_eq_nil_iff.mp empty)
    have each : ∀ tokens ∈ templates.map fun parts => tokensFrom [] (lexemesOf parts),
        IsClause tokens := List.forall_mem_map.mpr clauses
    have clause := isClause_intercalate mapped each
    rw [← tokensFrom_intercalate] at clause
    rw [conjuncts?_of_isClause read clause, tokensFrom_intercalate, split_intercalate mapped each,
      same, List.flatMap_map]

/-- Whether a text is a conjunction of which every conjunct has a meaning that holds. -/
def TextHolds (meaning : List Token → Prop) (text : String) : Prop :=
  ∃ conjuncts, conjuncts? text = some conjuncts ∧ ∀ conjunct ∈ conjuncts, meaning conjunct

theorem textHolds_iff {meaning : List Token → Prop} {text : String}
    {conjuncts : List (List Token)} (read : conjuncts? text = some conjuncts) :
    TextHolds meaning text ↔ ∀ conjunct ∈ conjuncts, meaning conjunct := by
  unfold TextHolds
  rw [read]
  simp

/-- Whatever the conjuncts mean, the text of conditions holds exactly if the text of each condition
holds alone. -/
theorem textHolds_whereText (meaning : List Token → Prop) (conditions : List Condition) :
    TextHolds meaning (whereText conditions) ↔
      ∀ condition ∈ conditions, TextHolds meaning condition.render := by
  have alone (condition : Condition) : TextHolds meaning condition.render ↔
      ∀ conjunct ∈ condition.conjuncts, meaning conjunct :=
    textHolds_iff (conjuncts?_render condition)
  rw [textHolds_iff (conjuncts?_whereText conditions), List.forall_mem_flatMap]
  exact forall₂_congr fun condition _ => (alone condition).symm

end WorkQuery.Sql
