/-
This file proves that a statement binds nothing but its page. A statement is prepared in two passes:
a colon with a name behind it becomes the place of a bound value, unless it follows a colon, a
backslash or a character of a name; then a backslash that stands directly before a colon is dropped.
Escaped text comes through both passes as the text that it was made from, whatever it holds
(`prepared_escaped`), so that the only places are those of the limit and the offset, and all else is
the statement as it would be without escaping (`prepared_binds_page`).
-/

import WorkQuery.Proofs.SelectedPage
import WorkQuery.Sql.Statement

namespace WorkQuery.Sql

/-! ### Preparing a statement -/

/-- A piece of a statement that is prepared: a character, or the place of a bound value. -/
inductive Piece
  | character (character : Char)
  | place (name : String)
deriving DecidableEq, Repr

/-- Whether a place may open behind what stands before it. -/
def opensAfter (isName : Char → Bool) : Option Char → Bool
  | none => true
  | some before => before != ':' && before != '\\' && !isName before

/-- The pieces of characters. The scan knows the character before them and whether they go on with
the name of a place; a name is as long as it can be. -/
def piecesFrom (isName : Char → Bool) : Option Char → Bool → List Char → List Piece
  | _, _, [] => []
  | before, inName, character :: rest =>
    let name := rest.takeWhile isName
    if inName && isName character then piecesFrom isName (some character) true rest
    else if character = ':' ∧ opensAfter isName before ∧ name ≠ [] then
      .place (String.ofList name) :: piecesFrom isName (some character) true rest
    else .character character :: piecesFrom isName (some character) false rest

/-- Pieces without the backslashes that stand directly before a colon. -/
def withoutEscapes : List Piece → List Piece
  | [] => []
  | .character '\\' :: .character ':' :: rest => .character ':' :: withoutEscapes rest
  | piece :: rest => piece :: withoutEscapes rest

/-- A statement once it is prepared; the class of the characters of names is given. -/
def prepared (isName : Char → Bool) (text : String) : List Piece :=
  withoutEscapes (piecesFrom isName none false text.toList)

/-- The pieces of a text without places. -/
def charactersOf (text : String) : List Piece :=
  text.toList.map .character

/-- The names of the places among pieces. -/
def boundNames (pieces : List Piece) : List String :=
  pieces.filterMap fun
    | .place name => some name
    | .character _ => none

/-- The text of pieces, in which a place stands as its name behind a colon. -/
def pieceText (pieces : List Piece) : String :=
  String.ofList (pieces.flatMap fun
    | .place name => ':' :: name.toList
    | .character character => [character])

@[simp] theorem boundNames_append (first second : List Piece) :
    boundNames (first ++ second) = boundNames first ++ boundNames second :=
  List.filterMap_append

@[simp] theorem boundNames_charactersOf (text : String) : boundNames (charactersOf text) = [] := by
  rw [boundNames, charactersOf, List.filterMap_map]
  exact List.filterMap_eq_nil_iff.mpr fun _ _ => rfl

@[simp] theorem pieceText_append (first second : List Piece) :
    pieceText (first ++ second) = pieceText first ++ pieceText second := by
  rw [pieceText, List.flatMap_append, String.ofList_append]
  rfl

@[simp] theorem pieceText_charactersOf (text : String) : pieceText (charactersOf text) = text := by
  rw [pieceText, charactersOf, List.flatMap_map, List.flatMap_singleton', String.ofList_toList]

/-! ### Escaped colons -/

/-- One character of a text in which colons are escaped. -/
def escapedColon (character : Char) : List Char :=
  if character = ':' then ['\\', ':'] else [character]

theorem toList_escapeColons (text : String) :
    (escapeColons text).toList = text.toList.flatMap escapedColon :=
  String.toList_ofList

theorem escapeColons_append (first second : String) :
    escapeColons (first ++ second) = escapeColons first ++ escapeColons second := by
  refine String.toList_inj.mp ?_
  rw [String.toList_append, toList_escapeColons, toList_escapeColons, toList_escapeColons,
    String.toList_append, List.flatMap_append]

theorem escapeColons_of_notMem {text : String} (colonless : ':' ∉ text.toList) :
    escapeColons text = text := by
  have unchanged : ∀ character ∈ text.toList, escapedColon character = [character] := by
    intro character member
    refine if_neg ?_
    rintro rfl
    exact colonless member
  refine String.toList_inj.mp ?_
  rw [toList_escapeColons, List.flatMap_congr unchanged, List.flatMap_singleton']

theorem escapeColons_intercalate (separator : String) (texts : List String) :
    escapeColons (separator.intercalate texts) =
      (escapeColons separator).intercalate (texts.map escapeColons) := by
  induction texts with
  | nil => rfl
  | cons text texts inductionHypothesis =>
    cases texts with
    | nil => rw [String.intercalate_singleton, List.map_singleton, String.intercalate_singleton]
    | cons next others =>
      rw [String.intercalate_cons_cons, escapeColons_append, escapeColons_append,
        inductionHypothesis]
      simp only [List.map_cons, String.intercalate_cons_cons]

/-- Texts without colons that are put together stay as they are. -/
theorem escapeColons_intercalate_of_notMem {separator : String} {texts : List String}
    (colonless : ':' ∉ separator.toList) (each : ∀ text ∈ texts, ':' ∉ text.toList) :
    escapeColons (separator.intercalate texts) = separator.intercalate texts := by
  have unchanged : ∀ text ∈ texts, escapeColons text = text :=
    fun text member => escapeColons_of_notMem (each text member)
  rw [escapeColons_intercalate, escapeColons_of_notMem colonless, List.map_congr_left unchanged,
    List.map_id']

theorem escapeColons_eq_empty_iff {text : String} : escapeColons text = "" ↔ text = "" := by
  constructor
  · intro empty
    have nothing := congrArg String.toList empty
    rw [toList_escapeColons] at nothing
    refine String.toList_inj.mp (List.eq_nil_iff_forall_not_mem.mpr fun character member => ?_)
    have gone := List.flatMap_eq_nil_iff.mp nothing character member
    unfold escapedColon at gone
    split at gone <;> cases gone
  · rintro rfl
    rfl

/-! ### The first pass -/

section Places

variable {isName : Char → Bool}

/-- The character that stands before what follows some characters. -/
def lastBefore (before : Option Char) (characters : List Char) : Option Char :=
  characters.foldl (fun _ character => some character) before

/-- Outside of a name, a colon behind a backslash opens no place, and neither does any other
character. -/
theorem piecesFrom_character {before : Option Char} {character : Char}
    (opensNothing : character = ':' → opensAfter isName before = false) (rest : List Char) :
    piecesFrom isName before false (character :: rest) =
      .character character :: piecesFrom isName (some character) false rest := by
  rw [piecesFrom, Bool.false_and, if_neg Bool.false_ne_true, if_neg]
  rintro ⟨isColon, opens, -⟩
  rw [opensNothing isColon] at opens
  cases opens

/-- In an escaped text no place opens. -/
theorem piecesFrom_escaped (before : Option Char) (characters rest : List Char) :
    piecesFrom isName before false (characters.flatMap escapedColon ++ rest) =
      (characters.flatMap escapedColon).map .character ++
        piecesFrom isName (lastBefore before characters) false rest := by
  -- What stands before changes with each character; before a colon it is always a backslash.
  induction characters generalizing before with
  | nil => rfl
  | cons character characters inductionHypothesis =>
    rw [List.flatMap_cons, List.append_assoc, List.map_append, List.append_assoc]
    by_cases isColon : character = ':'
    · rw [escapedColon, if_pos isColon, isColon]
      change piecesFrom isName before false ('\\' :: ':' :: (_ ++ rest)) = _
      rw [piecesFrom_character (fun same => absurd same (by decide)),
        piecesFrom_character (fun _ => rfl), inductionHypothesis]
      rfl
    · rw [escapedColon, if_neg isColon]
      change piecesFrom isName before false (character :: (_ ++ rest)) = _
      rw [piecesFrom_character (fun same => absurd same isColon), inductionHypothesis]
      rfl

theorem piecesFrom_name {before : Option Char} {name rest : List Char}
    (isNamed : ∀ character ∈ name, isName character = true)
    (stops : ∀ character, rest.head? = some character → isName character = false) :
    piecesFrom isName before true (name ++ rest) =
      piecesFrom isName (lastBefore before name) false rest := by
  induction name generalizing before with
  | nil =>
    cases rest with
    | nil => rfl
    | cons character rest =>
      have stop := stops character rfl
      change piecesFrom isName before true (character :: rest) =
        piecesFrom isName before false (character :: rest)
      rw [piecesFrom, piecesFrom, stop]
      rfl
  | cons character name inductionHypothesis =>
    obtain ⟨first, others⟩ := List.forall_mem_cons.mp isNamed
    rw [List.cons_append, piecesFrom, first, Bool.true_and, if_pos rfl]
    exact inductionHypothesis others

/-- Where a place may open, a colon with a name behind it opens the place of that name. -/
theorem piecesFrom_place {before : Option Char} {name : String} {rest : List Char}
    (opens : opensAfter isName before = true) (named : name ≠ "")
    (isNamed : ∀ character ∈ name.toList, isName character = true)
    (stops : ∀ character, rest.head? = some character → isName character = false) :
    piecesFrom isName before false (':' :: (name.toList ++ rest)) =
      .place name :: piecesFrom isName (lastBefore (some ':') name.toList) false rest := by
  have longest : (name.toList ++ rest).takeWhile isName = name.toList := by
    rw [List.takeWhile_append_of_pos isNamed]
    cases rest with
    | nil => rw [List.takeWhile_nil, List.append_nil]
    | cons character rest =>
      rw [List.takeWhile_cons_of_neg (Bool.eq_false_iff.mp (stops character rfl)), List.append_nil]
  have nonempty : name.toList ≠ [] := fun empty => named (String.toList_eq_nil_iff.mp empty)
  rw [piecesFrom, Bool.false_and, if_neg Bool.false_ne_true, longest, if_pos ⟨rfl, opens, nonempty⟩,
    String.ofList_toList, piecesFrom_name isNamed stops]

end Places

/-! ### The second pass -/

/-- A piece is kept unless it is a backslash before a colon. -/
theorem withoutEscapes_cons {piece : Piece} {rest : List Piece}
    (kept : piece = .character '\\' → rest.head? ≠ some (.character ':')) :
    withoutEscapes (piece :: rest) = piece :: withoutEscapes rest := by
  rw [withoutEscapes]
  rintro others isBackslash rfl
  exact kept isBackslash rfl

/-- Escaped characters never begin with a colon. -/
theorem head?_escaped (characters : List Char) {rest : List Piece}
    (noColon : rest.head? ≠ some (.character ':')) :
    ((characters.flatMap escapedColon).map Piece.character ++ rest).head? ≠
      some (.character ':') := by
  cases characters with
  | nil => exact noColon
  | cons character characters =>
    rw [List.flatMap_cons, escapedColon]
    split
    · exact fun same => absurd (Piece.character.inj (Option.some.inj same)) (by decide)
    · rename_i notColon
      exact fun same => notColon (Piece.character.inj (Option.some.inj same))

/-- The escaping is undone; the backslashes of the text itself stay. -/
theorem withoutEscapes_escaped (characters : List Char) {rest : List Piece}
    (noColon : rest.head? ≠ some (.character ':')) :
    withoutEscapes ((characters.flatMap escapedColon).map .character ++ rest) =
      characters.map .character ++ withoutEscapes rest := by
  induction characters with
  | nil => rfl
  | cons character characters inductionHypothesis =>
    rw [List.flatMap_cons, List.map_append, List.append_assoc, List.map_cons, List.cons_append,
      ← inductionHypothesis]
    by_cases isColon : character = ':'
    · rw [escapedColon, if_pos isColon, isColon]
      rfl
    · rw [escapedColon, if_neg isColon]
      exact withoutEscapes_cons fun _ => head?_escaped characters noColon

theorem withoutEscapes_place (name : String) (rest : List Piece) :
    withoutEscapes (.place name :: rest) = .place name :: withoutEscapes rest :=
  withoutEscapes_cons nofun

/-! ### Statements -/

/-- An escaped text is prepared to the text that it was made from. -/
theorem prepared_escaped (isName : Char → Bool) (text : String) :
    prepared isName (escapeColons text) = charactersOf text := by
  have scanned := @piecesFrom_escaped isName none text.toList []
  have undone := @withoutEscapes_escaped text.toList [] nofun
  rw [List.append_nil] at scanned undone
  rw [prepared, toList_escapeColons, scanned, piecesFrom, List.append_nil, undone]
  exact List.append_nil _

/-- Neither the tables nor the fields of the statements have colons. -/
theorem escapeColons_fromClause : escapeColons fromClause = fromClause :=
  escapeColons_intercalate_of_notMem (by decide) (by decide +kernel)

theorem escapeColons_selectList : escapeColons selectList = selectList := by
  refine escapeColons_intercalate_of_notMem (by decide) fun text member => ?_
  obtain ⟨field, -, rfl⟩ := List.mem_map.mp member
  cases field <;> decide +kernel

theorem escapeColons_sourceText (whereText : String) :
    sourceText (escapeColons whereText) = escapeColons (sourceText whereText) := by
  have words : escapeColons "\n" = "\n" ∧ escapeColons "WHERE " = "WHERE " :=
    ⟨escapeColons_of_notMem (by decide), escapeColons_of_notMem (by decide)⟩
  unfold sourceText
  simp only [escapeColons_eq_empty_iff]
  split
  · exact escapeColons_fromClause.symm
  · simp only [escapeColons_append, escapeColons_fromClause, words]

/-- Only the conditions of the statement that counts can hold colons. -/
theorem countText_escapeColons (whereText : String) :
    countText (escapeColons whereText) = escapeColons (countText whereText) := by
  have words : escapeColons "SELECT COUNT(*) AS count" = "SELECT COUNT(*) AS count" ∧
      escapeColons "\n" = "\n" :=
    ⟨escapeColons_of_notMem (by decide), escapeColons_of_notMem (by decide)⟩
  rw [countText_eq, countText_eq, escapeColons_append, escapeColons_append, words.1, words.2,
    escapeColons_sourceText]

/-- The statement that reads a page, up to its two places. -/
def pageHead (whereText orderText : String) : String :=
  "SELECT" ++ "\n" ++ selectList ++ "\n" ++ sourceText whereText ++ "\n" ++ orderText ++ "\n" ++
    "LIMIT "

theorem selectText_eq_pageHead (whereText orderText : String) :
    selectText whereText orderText = pageHead whereText orderText ++ ":limit OFFSET :offset" := by
  have words : "LIMIT :limit OFFSET :offset" = "LIMIT " ++ ":limit OFFSET :offset" := by decide
  unfold pageHead
  rw [selectText_eq, words, ← String.append_assoc]

theorem pageHead_escapeColons (whereText orderText : String) :
    pageHead (escapeColons whereText) (escapeColons orderText) =
      escapeColons (pageHead whereText orderText) := by
  have words : escapeColons "SELECT" = "SELECT" ∧ escapeColons "\n" = "\n" ∧
      escapeColons "LIMIT " = "LIMIT " :=
    ⟨escapeColons_of_notMem (by decide), escapeColons_of_notMem (by decide),
      escapeColons_of_notMem (by decide)⟩
  unfold pageHead
  simp only [escapeColons_append, escapeColons_selectList, words, escapeColons_sourceText]

theorem lastBefore_pageHead (whereText orderText : String) :
    lastBefore none (pageHead whereText orderText).toList = some ' ' := by
  unfold pageHead lastBefore
  rw [String.toList_append, List.foldl_append]
  rfl

/-- The statement that reads a page has its two places at its end and is itself before them. -/
theorem prepared_selectText {isName : Char → Bool}
    (letters : ∀ character, character.isLower = true → isName character = true)
    (blank : isName ' ' = false) (whereText orderText : String) :
    prepared isName (selectText (escapeColons whereText) (escapeColons orderText)) =
      charactersOf (pageHead whereText orderText) ++ [.place "limit"] ++
        charactersOf " OFFSET " ++ [.place "offset"] := by
  have opens : opensAfter isName (some ' ') = true := by
    rw [opensAfter, blank]
    rfl
  have named (name : String) (lower : name.toList.all Char.isLower = true) :
      ∀ character ∈ name.toList, isName character = true :=
    fun character member => letters character (List.all_eq_true.mp lower character member)
  have text : (selectText (escapeColons whereText) (escapeColons orderText)).toList =
      (pageHead whereText orderText).toList.flatMap escapedColon ++
        ':' :: ("limit".toList ++ (" OFFSET ".toList.flatMap escapedColon ++
          ':' :: ("offset".toList ++ []))) := by
    rw [selectText_eq_pageHead, pageHead_escapeColons, String.toList_append, toList_escapeColons]
    rfl
  have last : lastBefore (lastBefore (some ':') "limit".toList) " OFFSET ".toList = some ' ' := rfl
  have stops : ∀ character, (" OFFSET ".toList.flatMap escapedColon ++
      ':' :: ("offset".toList ++ [])).head? = some character → isName character = false :=
    fun _ same => Option.some.inj same ▸ blank
  have ends : ∀ character, ([] : List Char).head? = some character → isName character = false :=
    nofun
  have noColon (name : String) (rest : List Piece) :
      (Piece.place name :: rest).head? ≠ some (.character ':') := nofun
  rw [prepared, text, piecesFrom_escaped, lastBefore_pageHead,
    piecesFrom_place opens (by decide) (named "limit" (by decide)) stops, piecesFrom_escaped, last,
    piecesFrom_place opens (by decide) (named "offset" (by decide)) ends,
    withoutEscapes_escaped _ (noColon _ _), withoutEscapes_place,
    withoutEscapes_escaped _ (noColon _ _), withoutEscapes_place]
  simp [charactersOf, piecesFrom, withoutEscapes]

/-- Both statements of any query for any requester, with the colons of the conditions and of the
order escaped, are prepared to themselves without escaping. The one that reads a page binds just the
limit and the offset, at its end; the one that counts binds nothing. The characters of names are any
class with the small letters but without the blank. -/
theorem prepared_binds_page {isName : Char → Bool}
    (letters : ∀ character, character.isLower = true → isName character = true)
    (blank : isName ' ' = false) (query : Query) (user : Option Int) :
    let selection := select query user
    let reading := prepared isName
      (selectText (escapeColons selection.whereText) (escapeColons selection.orderText))
    let counting := prepared isName (countText (escapeColons selection.whereText))
    boundNames reading = ["limit", "offset"] ∧
      pieceText reading = selectText selection.whereText selection.orderText ∧
      (∃ head, selectText selection.whereText selection.orderText =
          head ++ ":limit OFFSET :offset" ∧
        reading = charactersOf head ++ [.place "limit"] ++ charactersOf " OFFSET " ++
          [.place "offset"]) ∧
      boundNames counting = [] ∧
      pieceText counting = countText selection.whereText := by
  intro selection reading counting
  have read : reading = _ :=
    prepared_selectText letters blank selection.whereText selection.orderText
  have counted : counting = charactersOf (countText selection.whereText) := by
    change prepared isName (countText (escapeColons selection.whereText)) = _
    rw [countText_escapeColons, prepared_escaped]
  refine ⟨?_, ?_, ⟨_, selectText_eq_pageHead _ _, read⟩, ?_, ?_⟩
  · rw [read]
    simp only [boundNames_append, boundNames_charactersOf]
    rfl
  · rw [read, selectText_eq_pageHead]
    simp only [pieceText_append, pieceText_charactersOf, String.append_assoc]
    rfl
  · rw [counted, boundNames_charactersOf]
  · rw [counted, pieceText_charactersOf]

/-- The query for a subject with colons behind words, blanks, colons and backslashes. -/
def colonQuery : Query :=
  (Query.plain "Colons").withFilter (.equals "subject" (.text "a:limit :limit ::b \\:offset \\"))

/-- The characters of names that ASCII has. -/
def isPlainName (character : Char) : Bool :=
  character.isAlphanum || character == '_'

theorem prepared_binds_page_colons :
    (∀ character, character.isLower = true → isPlainName character = true) ∧
      isPlainName ' ' = false ∧
      (select colonQuery none).whereText = "wp.subject = 'a:limit :limit ::b \\:offset \\'" ∧
      let reading := prepared isPlainName (selectText
        (escapeColons (select colonQuery none).whereText)
        (escapeColons (select colonQuery none).orderText))
      boundNames reading = ["limit", "offset"] ∧
        pieceText reading =
          selectText (select colonQuery none).whereText (select colonQuery none).orderText := by
  have letters : ∀ character, character.isLower = true → isPlainName character = true := by
    intro character lower
    change (character.isUpper || character.isLower || character.isDigit || character == '_') = true
    rw [lower, Bool.or_true, Bool.true_or, Bool.true_or]
  have bound := prepared_binds_page letters (by decide) colonQuery none
  exact ⟨letters, by decide, by decide +kernel, bound.1, bound.2.1⟩

end WorkQuery.Sql
