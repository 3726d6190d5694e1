/-
This file proves that the text of a statement says which rows it reads. Its tables are read back by
the rule of the language: behind `FROM` stand the work packages, each `LEFT JOIN` adds the rows of a
lookup table, and its tests stand behind `ON` with `AND` between them (`joins?`). So read, the
statement that counts and the one that reads a page have the same joins, whatever their conditions
and sort keys are (`joins?_countText`, `joins?_selectText`), and these are the joins that the rows
are made by.
-/

import WorkQuery.Proofs.Conjunction
import WorkQuery.Sql.Statement
import WorkQuery.Table.Evaluation

namespace WorkQuery.Sql

open Number

/-! ### Joins as they are read -/

/-- The test that tokens write of a row of a lookup table. -/
def JoinTest.ofTokens? (lookup : Lookup) : List Token → Option JoinTest
  | [.word left, .word "=", .word right] =>
    if right = lookup.column "id" then
      (Field.all.find? fun field => "wp." ++ field.name == left).map key
    else none
  | [.word left, .word "=", .literal name] =>
    if left = lookup.column "type" then some (family name) else none
  | _ => none

/-- The join that tokens write, for the tokens behind `LEFT`. -/
def Join.ofTokens? : List Token → Option Join
  | .word "JOIN" :: .word name :: .word letter :: .word "ON" :: tests => do
    let lookup ← Lookup.all.find? fun lookup => lookup.name == name && lookup.letter == letter
    let tests ← (tests.splitOn (.word "AND")).mapM (JoinTest.ofTokens? lookup)
    return ⟨lookup, tests⟩
  | _ => none

/-- Whether a token ends the tables of a statement. -/
def Token.endsSource (token : Token) : Bool :=
  token == .word "WHERE" || token == .word "ORDER"

/-- The tokens that stand for the tables of a statement. -/
def sourceTokens (tokens : List Token) : List Token :=
  ((tokens.dropWhile (· != .word "FROM")).drop 1).takeWhile (!·.endsSource)

/-- The joins of a statement; none if it does not read the work packages. -/
def joins? (statement : String) : Option (List Join) := do
  match (sourceTokens (tokensFrom [] (← lex statement))).splitOn (.word "LEFT") with
  | [.word "work_packages", .word "wp"] :: joins => joins.mapM Join.ofTokens?
  | _ => none

/-- The rows that a statement reads from the tables, before its conditions select from them. -/
def rowsByText? (tables : Tables) (statement : String) : Option (List JoinedRow) :=
  (joins? statement).map (joinAll tables)

/-! ### Lines -/

/-- The tokens of pieces. -/
def tokensOf (parts : List Part) : List Token :=
  tokensFrom [] (lexemesOf parts)

theorem intercalate_nil {Content : Type} (lists : List (List Content)) :
    List.intercalate [] lists = lists.flatten := by
  induction lists with
  | nil => rfl
  | cons list lists inductionHypothesis =>
    cases lists with
    | nil => simp
    | cons next others =>
      rw [List.intercalate_cons_cons, List.append_nil, inductionHypothesis]
      rfl

/-- Lines are read one after the other. -/
theorem lex_lines {lines : List (List Part)} (apart : ∀ line ∈ lines, Apart line) :
    ∃ lexemes, lex ("\n".intercalate (lines.map written)) = some lexemes ∧
      tokensFrom [] lexemes = lines.flatMap tokensOf := by
  have lineBreak : separator? '\n' = some [] := by decide
  have separates (before after : List Lexeme) :
      tokensFrom [] (before ++ ("\n".toList.map .outside ++ after)) =
        tokensFrom [] before ++ ([] ++ tokensFrom [] after) :=
    tokensFrom_separator [] before after lineBreak
  refine ⟨lexemesOf (List.intercalate [.words "\n"] lines), ?_, ?_⟩
  · rw [← written_intercalate]
    exact lex_written (apart_intercalate (by decide) (by decide) apart)
  · rw [tokensFrom_separated separates, intercalate_nil]
    rfl

/-- Pieces with commas between them, each followed by a blank, are read one after the other. -/
theorem tokensOf_commas {separator : String} {blank : Char}
    (comma : separator.toList = [',', blank]) (isBlank : separator? blank = some [])
    (pieces : List (List Part)) :
    tokensOf (List.intercalate [.words separator] pieces) =
      List.intercalate [.bracket ','] (pieces.map tokensOf) := by
  refine tokensFrom_separated (fun before after => ?_) pieces
  have skipped : tokensFrom [] (.outside blank :: after) = tokensFrom [] after := by
    rw [tokensFrom, isBlank]
    rfl
  rw [comma, ← skipped]
  exact tokensFrom_separator [] before (.outside blank :: after) (by decide)

/-! ### The line of the tables -/

/-- A test as pieces of a statement. -/
def JoinTest.parts (lookup : Lookup) : JoinTest → List Part
  | key field => [.words ((key field).render lookup)]
  | family name => [.words (lookup.column "type" ++ " = "), .literal name]

/-- A join as pieces of a statement. -/
def Join.parts (join : Join) : List Part :=
  .words ("LEFT JOIN " ++ join.lookup.name ++ " " ++ join.lookup.letter ++ " ON ") ::
    List.intercalate [.words " AND "] (join.tests.map (JoinTest.parts join.lookup))

/-- The tables of a statement as pieces. -/
def sourceParts : List Part :=
  List.intercalate [.words "\n"] ([.words "FROM work_packages wp"] :: joins.map Join.parts)

theorem JoinTest.written_parts (lookup : Lookup) (test : JoinTest) :
    written (test.parts lookup) = test.render lookup := by
  cases test with
  | key field => exact written_words _
  | family name =>
    rw [parts, written_cons, written_cons, written_nil, String.append_empty]
    rfl

theorem JoinTest.apart_parts (lookup : Lookup) (test : JoinTest) : Apart (test.parts lookup) := by
  cases test with
  | key field =>
    refine .words (notMem_quote_append (notMem_quote_append ?_ (by decide)) ?_) .nil
    · exact notMem_quote_text (.item field)
    · cases lookup <;> decide
  | family name => exact .words (by cases lookup <;> decide) (.last name)

theorem Join.written_parts (join : Join) : written join.parts = join.render := by
  have tests : (join.tests.map (JoinTest.parts join.lookup)).map written =
      join.tests.map (JoinTest.render join.lookup) := by
    rw [List.map_map]
    exact List.map_congr_left fun test _ => test.written_parts join.lookup
  rw [parts, written_cons, written_intercalate, tests]
  rfl

theorem Join.apart_parts (join : Join) : Apart join.parts := by
  refine .words (by cases join.lookup <;> decide) (apart_intercalate (by decide) (by decide) ?_)
  exact List.forall_mem_map.mpr fun test _ => test.apart_parts join.lookup

theorem written_sourceParts : written sourceParts = fromClause := by
  have texts : (joins.map Join.parts).map written = joins.map Join.render := by
    rw [List.map_map]
    exact List.map_congr_left fun join _ => join.written_parts
  rw [sourceParts, written_intercalate, List.map_cons, texts]
  rfl

theorem apart_sourceParts : Apart sourceParts := by
  refine apart_intercalate (by decide) (by decide) (List.forall_mem_cons.mpr ⟨?_, ?_⟩)
  · exact .words (by decide) .nil
  · exact List.forall_mem_map.mpr fun join _ => join.apart_parts

/-! ### Reading joins -/

/-- Tokens that end the tables of a statement, if there are any. -/
def EndsSource (tokens : List Token) : Prop :=
  ∀ token ∈ tokens.head?, token.endsSource = true

theorem EndsSource.append {first second : List Token} (ends : EndsSource first)
    (ends' : EndsSource second) : EndsSource (first ++ second) := by
  cases first with
  | nil => exact ends'
  | cons token rest => exact ends

/-- The tables of a statement stand between its head and its conditions or its order. -/
theorem sourceTokens_append {before source after : List Token} (noSource : .word "FROM" ∉ before)
    (inside : source.all (!·.endsSource) = true) (ends : EndsSource after) :
    sourceTokens (before ++ (.word "FROM" :: source ++ after)) = source := by
  have skipped : ∀ token ∈ before, (token != .word "FROM") = true := by
    intro token member
    exact bne_iff_ne.mpr fun same => noSource (same ▸ member)
  have stopped : after.takeWhile (!·.endsSource) = [] := by
    cases after with
    | nil => rfl
    | cons token rest =>
      rw [List.takeWhile_cons_of_neg]
      rw [ends token rfl]
      decide
  rw [sourceTokens, List.dropWhile_append_of_pos skipped]
  change List.takeWhile _ (source ++ after) = source
  rw [List.takeWhile_append_of_pos (List.all_eq_true.mp inside), stopped, List.append_nil]

/-- A statement is read as having the joins that its rows are made by. -/
theorem joins?_lines {before after : List (List Part)} (apart : ∀ line ∈ before, Apart line)
    (apart' : ∀ line ∈ after, Apart line) (noSource : .word "FROM" ∉ before.flatMap tokensOf)
    (ends : EndsSource (after.flatMap tokensOf)) :
    joins? ("\n".intercalate ((before ++ sourceParts :: after).map written)) = some joins := by
  obtain ⟨source, tokens, inside, read⟩ : ∃ source, tokensOf sourceParts = .word "FROM" :: source ∧
      source.all (!·.endsSource) = true ∧
      (match source.splitOn (.word "LEFT") with
        | [.word "work_packages", .word "wp"] :: joins => joins.mapM Join.ofTokens?
        | _ => none) = some joins :=
    ⟨(tokensOf sourceParts).drop 1, by decide +kernel, by decide +kernel, by decide +kernel⟩
  obtain ⟨lexemes, lexed, same⟩ := lex_lines (List.forall_mem_append.mpr
    ⟨apart, List.forall_mem_cons.mpr ⟨apart_sourceParts, apart'⟩⟩)
  rw [List.flatMap_append, List.flatMap_cons, tokens] at same
  rw [joins?, lexed, Option.bind_eq_bind, Option.bind_some, same,
    sourceTokens_append noSource inside ends]
  exact read

/-! ### The lines of a statement -/

/-- The fields that a page reads as pieces of a statement. -/
def selectParts : List Part :=
  List.intercalate [.words ",\n"] (Field.all.map fun field => [.words ("    wp." ++ field.name)])

theorem written_selectParts : written selectParts = selectList := by
  rw [selectParts, written_intercalate, List.map_map]
  exact congrArg _ (List.map_congr_left fun field _ => written_words _)

theorem apart_selectParts : Apart selectParts := by
  refine apart_intercalate (by decide) (by decide) (List.forall_mem_map.mpr fun field _ => ?_)
  exact .words (notMem_quote_append (by decide) (by cases field <;> decide)) .nil

theorem tokensOf_selectParts : tokensOf selectParts =
    List.intercalate [.bracket ','] (Field.all.map fun field => [.word ("wp." ++ field.name)]) := by
  have each (field : Field) : tokensOf [.words ("    wp." ++ field.name)] =
      [.word ("wp." ++ field.name)] := by
    cases field <;> decide +kernel
  rw [selectParts, tokensOf_commas rfl (by decide), List.map_map]
  exact congrArg _ (List.map_congr_left fun field _ => each field)

/-- What stands behind `WHERE` is read by itself. -/
theorem tokensOf_where (parts : List Part) :
    tokensOf (.words "WHERE " :: parts) = .word "WHERE" :: tokensOf parts := by
  rw [tokensOf, lexemesOf, List.flatMap_cons, Part.lexemes]
  simp [tokensFrom, separator?, isBracket, endedWord, tokensOf, lexemesOf]

/-- What stands behind `ORDER BY` is read by itself. -/
theorem tokensOf_orderBy (parts : List Part) :
    tokensOf (.words "ORDER BY " :: parts) = .word "ORDER" :: .word "BY" :: tokensOf parts := by
  rw [tokensOf, lexemesOf, List.flatMap_cons, Part.lexemes]
  simp [tokensFrom, separator?, isBracket, endedWord, tokensOf, lexemesOf]

/-- The line of the conditions, if there are any, ends the tables. -/
theorem exists_conditionLines (conditions : List Condition) :
    ∃ lines : List (List Part),
      (if whereText conditions = "" then [] else ["WHERE " ++ whereText conditions]) =
        lines.map written ∧
      (∀ line ∈ lines, Apart line) ∧ EndsSource (lines.flatMap tokensOf) := by
  obtain ⟨templates, related, -, -⟩ := exists_templates conditions
  obtain ⟨same, apart⟩ := writes_whereText related
  split
  · exact ⟨[], rfl, List.forall_mem_nil _, nofun⟩
  · refine ⟨[.words "WHERE " :: List.intercalate [.words " AND "] templates], ?_, ?_, ?_⟩
    · rw [List.map_singleton, written_cons, ← same]
      rfl
    · exact List.forall_mem_singleton.mpr (.words (by decide) apart)
    · rw [List.flatMap_singleton, tokensOf_where]
      rintro token ⟨⟩
      rfl

/-- Sort keys as pieces of a statement. -/
def orderParts (keys : List SortKey) : List Part :=
  .words "ORDER BY " :: List.intercalate [.words ", "] (keys.map fun key => [.words key.render])

theorem SortKey.apart_render (key : SortKey) : Apart [.words key.render] := by
  refine .words ?_ .nil
  unfold render
  split <;> exact notMem_quote_append (notMem_quote_text key.column) (by decide)

theorem writes_orderText {keys : List SortKey} (nonempty : keys ≠ []) :
    orderText keys = written (orderParts keys) ∧ Apart (orderParts keys) := by
  constructor
  · rw [orderText, if_neg (mt List.isEmpty_iff.mp nonempty), orderParts, written_cons,
      written_intercalate, List.map_map]
    rfl
  · refine .words (by decide) (apart_intercalate (by decide) (by decide) ?_)
    exact List.forall_mem_map.mpr fun key _ => key.apart_render

/-- The line of the order ends the tables. -/
theorem exists_orderLine (keys : List SortKey) :
    ∃ line : List Part, orderText keys = written line ∧ Apart line ∧
      ∃ rest, tokensOf line = .word "ORDER" :: rest := by
  by_cases empty : keys = []
  · refine ⟨[.words "ORDER BY ", .words "wp.id DESC"], ?_, ?_, _, tokensOf_orderBy _⟩
    · rw [empty]
      decide
    · exact .words (by decide) (.words (by decide) .nil)
  · obtain ⟨same, apart⟩ := writes_orderText empty
    exact ⟨orderParts keys, same, apart, _, tokensOf_orderBy _⟩

/-! ### Statements -/

/-- The statement that counts is read as having the joins that its rows are made by. -/
theorem joins?_countText (conditions : List Condition) :
    joins? (countText (whereText conditions)) = some joins := by
  obtain ⟨lines, texts, apart, ends⟩ := exists_conditionLines conditions
  have text : countText (whereText conditions) = "\n".intercalate
      (([[Part.words "SELECT COUNT(*) AS count"]] ++ sourceParts :: lines).map written) := by
    rw [countText, texts]
    simp only [List.map_cons, written_sourceParts, written_words, List.cons_append,
      List.nil_append]
  rw [text]
  refine joins?_lines ?_ apart (by decide +kernel) ends
  exact List.forall_mem_singleton.mpr (.words (by decide) .nil)

/-- The statement that reads a page has the same joins as the one that counts. -/
theorem joins?_selectText (conditions : List Condition) (keys : List SortKey) :
    joins? (selectText (whereText conditions) (orderText keys)) = some joins := by
  obtain ⟨lines, texts, apart, ends⟩ := exists_conditionLines conditions
  obtain ⟨order, orderText, orderApart, rest, orderTokens⟩ := exists_orderLine keys
  have text : selectText (whereText conditions) (Sql.orderText keys) = "\n".intercalate
      (([[Part.words "SELECT"], selectParts] ++ sourceParts ::
        (lines ++ [order, [.words "LIMIT :limit OFFSET :offset"]])).map written) := by
    rw [selectText, texts, orderText]
    simp only [List.map_append, List.map_cons, written_selectParts, written_sourceParts,
      written_words, List.map_nil, List.cons_append, List.nil_append]
  rw [text]
  refine joins?_lines ?_ ?_ ?_ ?_
  · refine List.forall_mem_cons.mpr ⟨.words (by decide) .nil, ?_⟩
    exact List.forall_mem_singleton.mpr apart_selectParts
  · refine List.forall_mem_append.mpr ⟨apart, List.forall_mem_cons.mpr ⟨orderApart, ?_⟩⟩
    exact List.forall_mem_singleton.mpr (.words (by decide) .nil)
  · rw [List.flatMap_cons, List.flatMap_singleton, tokensOf_selectParts]
    decide +kernel
  · rw [List.flatMap_append, List.flatMap_cons, orderTokens]
    refine ends.append ?_
    rintro token ⟨⟩
    rfl

/-- Whatever its conditions and sort keys are, either statement of a query reads the joined rows. -/
theorem rowsByText?_statements (tables : Tables) (conditions : List Condition)
    (keys : List SortKey) :
    rowsByText? tables (countText (whereText conditions)) = some (joinedRows tables) ∧
      rowsByText? tables (selectText (whereText conditions) (orderText keys)) =
        some (joinedRows tables) := by
  rw [rowsByText?, rowsByText?, joins?_countText, joins?_selectText]
  exact ⟨rfl, rfl⟩

end WorkQuery.Sql
