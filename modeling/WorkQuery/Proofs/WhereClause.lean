/-
This file proves that no value of a filter escapes its literal. Each operator has a template: words
that are fixed by the column and the operator, and the elements of the value, of which every text
and every day is a literal of its own (`template?`). Read back by the database's rule, the
conditions of a filter set are the templates of the filters that are kept, with ` AND ` between
them, so that filter sets that differ in their texts only differ inside of literals only
(`clauseTemplate_congr`).
-/

import WorkQuery.Proofs.LiteralTokens
import WorkQuery.Proofs.WholeNumber
import WorkQuery.Sql.Selection

namespace WorkQuery.Sql

open Number

/-! ### Templates -/

/-- The elements of a value as pieces of a statement: texts and days are literals that stand for
themselves, everything else is written as it is. -/
def elements (user : Option Int) : FilterValue → List Part
  | .id value => [.words (integerText value)]
  | .ids values => values.map fun value => .words (integerText value)
  | .text value => [.literal value]
  | .texts values => values.map .literal
  | .truth value => [.words (if value then "true" else "false")]
  | .date date => [.literal date.text]
  | .dates first last => [.literal first.text, .literal last.text]
  | .number number => ((numberLiteral? number).map fun literal => .words literal.render).toList
  | .currentUser => (user.map fun id => .words (integerText id)).toList
  | .absent => []

/-- The template of a list of elements: a single one is compared with, several stand in brackets. -/
def listTemplate? (column : String) (negated : Bool) : List Part → Option (List Part)
  | [] => none
  | [single] => some [.words (column ++ if negated then " != " else " = "), single]
  | several =>
    some (.words (column ++ if negated then " NOT IN (" else " IN (") ::
      (List.intercalate [.words ", "] (several.map ([·])) ++ [.words ")"]))

/-- The template of equality with one of the elements, or of inequality with all of them. -/
def membershipTemplate? (column : String) (negated : Bool) (value : FilterValue)
    (user : Option Int) : Option (List Part) :=
  if value = .currentUser ∧ user = none then if negated then none else some [.words "1 = 0"]
  else listTemplate? column negated (elements user value)

/-- The template of a search: the wildcards of the operator stand around the text, of which every
backslash, percent sign and underscore has a backslash before it. -/
def searchTemplate? (column : String) (negated : Bool) (before after : String) :
    FilterValue → Option (List Part)
  | .text text =>
    let escaped := text.toList.flatMap fun character =>
      if character = '\\' ∨ character = '%' ∨ character = '_' then ['\\', character]
      else [character]
    some [.words (column ++ if negated then " NOT ILIKE " else " ILIKE "),
      .literal (before ++ String.ofList escaped ++ after)]
  | _ => none

/-- The template of a comparison, which looks at the first element only. -/
def comparisonTemplate? (column symbol : String) (value : FilterValue) (user : Option Int) :
    Option (List Part) :=
  (elements user value).head?.map fun element => [.words (column ++ " " ++ symbol ++ " "), element]

/-- The template of a range of days. -/
def betweenTemplate? (column : String) : FilterValue → Option (List Part)
  | .dates first last => some [.words (column ++ " BETWEEN "), .literal first.text, .words " AND ",
      .literal last.text]
  | _ => none

/-- The template of the days of this week. -/
def thisWeekTemplate (column : String) : List Part :=
  [.words (column ++ " >= date_trunc("), .literal "week",
   .words (", CURRENT_DATE) AND " ++ column ++ " < date_trunc("), .literal "week",
   .words ", CURRENT_DATE) + interval ", .literal "1 week"]

/-- The template of an operator of a fixed kind; none if the value does not suit it. -/
def fixedTemplate? (column : String) (value : FilterValue) (user : Option Int) :
    FixedKind → Option (List Part)
  | .equals => membershipTemplate? column false value user
  | .notEquals => membershipTemplate? column true value user
  | .contains => searchTemplate? column false "%" "%" value
  | .notContains => searchTemplate? column true "%" "%" value
  | .startsWith => searchTemplate? column false "" "%" value
  | .endsWith => searchTemplate? column false "%" "" value
  | .greaterThan => comparisonTemplate? column ">" value user
  | .greaterOrEqual => comparisonTemplate? column ">=" value user
  | .lessThan => comparisonTemplate? column "<" value user
  | .lessOrEqual => comparisonTemplate? column "<=" value user
  | .between => betweenTemplate? column value
  | .isNull => some [.words (column ++ " IS NULL")]
  | .isNotNull => some [.words (column ++ " IS NOT NULL")]
  | .today => some [.words (column ++ " = CURRENT_DATE")]
  | .thisWeek => some (thisWeekTemplate column)
  | .currentUserEquals =>
    match user with
    | some id => some [.words (column ++ " = " ++ integerText id)]
    | none => some [.words "1 = 0"]

/-- The template of an operator of a relative kind: the days stand in the literal of an interval. -/
def relativeTemplate (column : String) (days : Int) (kind : RelativeKind) : List Part :=
  let sign := match kind with
    | .daysAgo => " = CURRENT_DATE - interval "
    | .daysFromNow => " = CURRENT_DATE + interval "
    | .lessThanDaysAgo => " > CURRENT_DATE - interval "
    | .moreThanDaysAgo => " < CURRENT_DATE - interval "
    | .lessThanDaysFromNow => " < CURRENT_DATE + interval "
    | .moreThanDaysFromNow => " > CURRENT_DATE + interval "
  [.words (column ++ sign), .literal (integerText days ++ " days")]

/-- The template of a filter for a requester; none if the filter is not kept. -/
def template? (user : Option Int) (filter : Filter) : Option (List Part) :=
  if filter.isValid then
    (filterColumn? filter.property).bind fun column =>
      match filter.operator with
      | .fixed kind => fixedTemplate? column.text filter.value user kind
      | .relative kind days => some (relativeTemplate column.text days kind)
  else none

/-- The templates of a filter set for a requester, with ` AND ` between them. -/
def clauseTemplate (user : Option Int) (filters : FilterSet) : List Part :=
  List.intercalate [.words " AND "] (filters.filters.filterMap (template? user))

/-! ### Texts without quotes -/

theorem notMem_quote_text (column : Reference) : '\'' ∉ column.text.toList := by
  cases column with
  | item field => cases field <;> decide
  | _ => decide

theorem notMem_quote_append {first second : String} (unquoted : '\'' ∉ first.toList)
    (unquoted' : '\'' ∉ second.toList) : '\'' ∉ (first ++ second).toList := by
  rw [String.toList_append, List.mem_append]
  exact not_or.mpr ⟨unquoted, unquoted'⟩

theorem notMem_quote_of_allPlain {text : String} (plain : AllPlain text) : '\'' ∉ text.toList :=
  fun member => (plain '\'' member).notQuote rfl

theorem notMem_quote_integerText (value : Int) : '\'' ∉ (integerText value).toList :=
  notMem_quote_of_allPlain (Binary64.allPlain_integerText value)

/-- Escaping changes quotes only. -/
theorem flatMap_escapedCharacter {characters : List Char} (unquoted : '\'' ∉ characters) :
    characters.flatMap escapedCharacter = characters := by
  induction characters with
  | nil => rfl
  | cons character characters inductionHypothesis =>
    obtain ⟨notQuote, unquoted⟩ := not_or.mp (List.mem_cons.not.mp unquoted)
    rw [List.flatMap_cons, inductionHypothesis unquoted, escapedCharacter,
      if_neg (Ne.symm notQuote)]
    rfl

/-! ### Literals as pieces -/

/-- A literal as a piece of a statement. -/
def Literal.part : Literal → Part
  | .text value => .literal value
  | literal => .words literal.render

theorem written_part (literal : Literal) : literal.part.written = literal.render := by
  cases literal <;> rfl

theorem written_singleton_part (literal : Literal) : written [literal.part] = literal.render := by
  rw [written_cons, written_nil, String.append_empty, written_part]

/-- The elements of a value are its literals. -/
theorem map_part_literals (user : Option Int) (value : FilterValue) :
    (literals user value).map Literal.part = elements user value := by
  cases value with
  | ids values => exact List.map_map
  | texts values => exact List.map_map
  | currentUser => cases user <;> rfl
  | number number =>
    rw [literals, elements, numberLiteral?]
    split
    · split <;> rfl
    · rfl
  | _ => rfl

theorem apart_part (literal : Literal) : Apart [literal.part] := by
  cases literal with
  | integer value => exact .words (notMem_quote_integerText value) .nil
  | decimal value => exact .words (notMem_quote_of_allPlain (Binary64.allPlain_text value)) .nil
  | text value => exact .last value
  | truth value => cases value <;> exact .words (by decide) .nil

/-! ### Conditions and their templates -/

/-- A condition is written as the pieces of a template, none of which touch. -/
structure Writes (condition : Condition) (parts : List Part) : Prop where
  same : condition.render = written parts
  apart : Apart parts

theorem Writes.words {condition : Condition} {text : String} (same : condition.render = text)
    (unquoted : '\'' ∉ text.toList) : Writes condition [.words text] := by
  refine ⟨?_, .words unquoted .nil⟩
  rw [written_words]
  exact same

theorem writes_compare (column : Reference) (comparison : Comparison) (literal : Literal) :
    Writes (.compare column comparison literal)
      [.words (column.text ++ " " ++ comparison.symbol ++ " "), literal.part] := by
  constructor
  · rw [written_cons, written_singleton_part]
    rfl
  · refine .words ?_ (apart_part literal)
    refine notMem_quote_append (notMem_quote_append (notMem_quote_append
      (notMem_quote_text column) (by decide)) ?_) (by decide)
    cases comparison <;> decide

theorem writes_member (column : Reference) (negated : Bool) (literals : List Literal) :
    Writes (.member column negated literals)
      (.words (column.text ++ if negated then " NOT IN (" else " IN (") ::
        (List.intercalate [.words ", "] ((literals.map Literal.part).map ([·])) ++
          [.words ")"])) := by
  constructor
  · have texts : ((literals.map Literal.part).map ([·])).map written =
        literals.map Literal.render := by
      rw [List.map_map, List.map_map]
      exact List.map_congr_left fun literal _ => written_singleton_part literal
    rw [written_cons, written_append, written_intercalate, texts, written_cons, written_nil]
    refine String.toList_inj.mp ?_
    cases negated <;> simp [Condition.render, Part.written]
  · refine .words (notMem_quote_append (notMem_quote_text column) (by cases negated <;> decide)) ?_
    refine (apart_intercalate (by decide) (by decide) fun piece member => ?_).append_words
      (by decide) (.words (by decide) .nil)
    rw [List.map_map] at member
    obtain ⟨literal, -, rfl⟩ := List.mem_map.mp member
    exact apart_part literal

theorem writes_search (column : Reference) (negated : Bool) (placement : Placement)
    (text : String) :
    Writes (.search column negated placement text)
      [.words (column.text ++ if negated then " NOT ILIKE " else " ILIKE "),
       .literal (placement.pattern text)] := by
  constructor
  · rw [written_cons, written_cons, written_nil, String.append_empty, Condition.render,
      ← quote_pattern]
    rfl
  · exact .words (notMem_quote_append (notMem_quote_text column) (by cases negated <;> decide))
      (.last _)

theorem writes_between (column : Reference) (first last : Calendar.Date) :
    Writes (.between column first last)
      [.words (column.text ++ " BETWEEN "), .literal first.text, .words " AND ",
       .literal last.text] := by
  constructor
  · simp only [written_cons, written_nil, String.append_empty, Part.written, Condition.render,
      String.append_assoc]
  · exact .words (notMem_quote_append (notMem_quote_text column) (by decide))
      (.literal _ (by decide) (.words (by decide) (.last _)))

theorem writes_thisWeek (column : Reference) :
    Writes (.thisWeek column) (thisWeekTemplate column.text) := by
  constructor
  · refine String.toList_inj.mp ?_
    simp [Condition.render, thisWeekTemplate, Part.written, quote, toList_escapeText,
      escapedCharacter]
  · have unquoted := notMem_quote_text column
    refine .words (notMem_quote_append unquoted (by decide)) (.literal _ ?_ (.words ?_
      (.literal _ (by decide) (.words (by decide) (.last _)))))
    · intro empty
      have characters := congrArg String.toList empty
      simp at characters
    · exact notMem_quote_append (notMem_quote_append (by decide) unquoted) (by decide)

theorem writes_relative (column : Reference) (kind : RelativeKind) (days : Int) :
    Writes (relativeCondition column days kind) (relativeTemplate column.text days kind) := by
  have escaped := flatMap_escapedCharacter (notMem_quote_integerText days)
  constructor
  · refine String.toList_inj.mp ?_
    cases kind <;>
      simp [Condition.render, relativeCondition, relativeTemplate, Part.written, quote,
        toList_escapeText, escaped, escapedCharacter, Comparison.symbol, Side.symbol]
  · exact .words (notMem_quote_append (notMem_quote_text column) (by cases kind <;> decide))
      (.last _)

/-! ### Filters and their templates -/

theorem rel_membership (column : Reference) (negated : Bool) (value : FilterValue)
    (user : Option Int) :
    Option.Rel Writes (membership? column negated value user)
      (membershipTemplate? column.text negated value user) := by
  unfold membership? membershipTemplate?
  split
  · cases negated
    · exact .some (.words rfl (by decide))
    · exact .none
  · rw [← map_part_literals]
    generalize literals user value = found
    match found with
    | [] => exact .none
    | [single] =>
      have written := writes_compare column (if negated then .unequal else .equal) single
      refine .some ?_
      cases negated
      · rw [String.append_assoc, String.append_assoc] at written
        exact written
      · rw [String.append_assoc, String.append_assoc] at written
        exact written
    | first :: second :: rest =>
      exact .some (writes_member column negated (first :: second :: rest))

/-- A search is written as the template with the wildcards of its place. -/
theorem rel_search (column : Reference) (negated : Bool) {placement : Placement}
    {before after : String}
    (around : ∀ text, placement.withWildcards text = before ++ text ++ after)
    (value : FilterValue) :
    Option.Rel Writes (search? column negated placement value)
      (searchTemplate? column.text negated before after value) := by
  cases value with
  | text text =>
    have writes := writes_search column negated placement text
    rw [Placement.pattern, around] at writes
    exact .some writes
  | _ => exact .none

theorem rel_comparison (column : Reference) (comparison : Comparison) (value : FilterValue)
    (user : Option Int) :
    Option.Rel Writes (comparison? column comparison value user)
      (comparisonTemplate? column.text comparison.symbol value user) := by
  unfold comparison? comparisonTemplate?
  rw [← map_part_literals, List.head?_map]
  cases (literals user value).head? with
  | none => exact .none
  | some literal => exact .some (writes_compare column comparison literal)

theorem rel_between (column : Reference) (value : FilterValue) :
    Option.Rel Writes (between? column value) (betweenTemplate? column.text value) := by
  cases value with
  | dates first last => exact .some (writes_between column first last)
  | _ => exact .none

/-- Words that follow the name of a column. -/
theorem writes_column {condition : Condition} (column : Reference) {words : String}
    (same : condition.render = column.text ++ words) (unquoted : '\'' ∉ words.toList) :
    Option.Rel Writes (some condition) (some [.words (column.text ++ words)]) :=
  .some (.words same (notMem_quote_append (notMem_quote_text column) unquoted))

theorem rel_fixedCondition (column : Reference) (value : FilterValue) (user : Option Int)
    (kind : FixedKind) :
    Option.Rel Writes (fixedCondition? column value user kind)
      (fixedTemplate? column.text value user kind) := by
  cases kind with
  | equals => exact rel_membership column false value user
  | notEquals => exact rel_membership column true value user
  | contains => exact @rel_search column false .anywhere _ _ (fun _ => rfl) value
  | notContains => exact @rel_search column true .anywhere _ _ (fun _ => rfl) value
  | startsWith =>
    exact @rel_search column false .atStart "" "%" (fun _ => by rw [String.empty_append]; rfl) value
  | endsWith =>
    exact @rel_search column false .atEnd "%" "" (fun _ => String.append_empty.symm) value
  | greaterThan => exact rel_comparison column .greater value user
  | greaterOrEqual => exact rel_comparison column .greaterOrEqual value user
  | lessThan => exact rel_comparison column .less value user
  | lessOrEqual => exact rel_comparison column .lessOrEqual value user
  | between => exact rel_between column value
  | isNull => exact writes_column column rfl (by decide)
  | isNotNull => exact writes_column column rfl (by decide)
  | today => exact writes_column column rfl (by decide)
  | thisWeek => exact .some (writes_thisWeek column)
  | currentUserEquals =>
    cases user with
    | none => exact .some (.words rfl (by decide))
    | some id =>
      refine .some (.words ?_ (notMem_quote_append (notMem_quote_append (notMem_quote_text column)
        (by decide)) (notMem_quote_integerText id)))
      refine String.toList_inj.mp ?_
      simp [Condition.render, Literal.render, Comparison.symbol]

/-- A filter is kept exactly if it has a template, and its condition is written as that template. -/
theorem rel_filterCondition (user : Option Int) (filter : Filter) :
    Option.Rel Writes (filterCondition user filter).toOption (template? user filter) := by
  unfold filterCondition template?
  cases filter.isValid with
  | false => exact .none
  | true =>
    cases filterColumn? filter.property with
    | none => exact .none
    | some column =>
      have related : Option.Rel Writes
          (operatorCondition? column filter.operator filter.value user)
          (match filter.operator with
            | .fixed kind => fixedTemplate? column.text filter.value user kind
            | .relative kind days => some (relativeTemplate column.text days kind)) := by
        cases filter.operator with
        | fixed kind => exact rel_fixedCondition column filter.value user kind
        | relative kind days => exact .some (writes_relative column kind days)
      simp only [Bool.not_true, Bool.false_eq_true, if_false, if_true, Option.bind_some]
      cases found : operatorCondition? column filter.operator filter.value user with
      | none =>
        rw [found] at related
        exact related
      | some condition =>
        rw [found] at related
        exact related

/-- The conditions of a filter set are the templates of the filters that are kept, in order. -/
theorem forall₂_filterConditions (user : Option Int) (filters : FilterSet) :
    List.Forall₂ Writes (filterConditions user filters)
      (filters.filters.filterMap (template? user)) := by
  rw [filterConditions, kept, List.filterMap_map]
  refine List.rel_filterMap (R := Eq) ?_ (List.forall₂_same.mpr fun _ _ => rfl)
  rintro filter _ rfl
  exact rel_filterCondition user filter

theorem written_of_forall₂ {conditions : List Condition} {templates : List (List Part)}
    (related : List.Forall₂ Writes conditions templates) :
    conditions.map Condition.render = templates.map written ∧
      ∀ template ∈ templates, Apart template := by
  induction related with
  | nil => exact ⟨rfl, List.forall_mem_nil _⟩
  | cons writes _ inductionHypothesis =>
    obtain ⟨same, apart⟩ := inductionHypothesis
    exact ⟨congrArg₂ List.cons writes.same same, List.forall_mem_cons.mpr ⟨writes.apart, apart⟩⟩

/-- Conditions that are joined are written as their templates with ` AND ` between them. -/
theorem writes_whereText {conditions : List Condition} {templates : List (List Part)}
    (related : List.Forall₂ Writes conditions templates) :
    whereText conditions = written (List.intercalate [.words " AND "] templates) ∧
      Apart (List.intercalate [.words " AND "] templates) := by
  obtain ⟨same, apart⟩ := written_of_forall₂ related
  rw [whereText, same, ← written_intercalate]
  exact ⟨rfl, apart_intercalate (by decide) (by decide) apart⟩

/-- The conditions of a filter set are read back as its templates. -/
theorem lex_whereText_eq (user : Option Int) (filters : FilterSet) :
    lex (whereText (filterConditions user filters)) =
      some (lexemesOf (clauseTemplate user filters)) := by
  obtain ⟨same, apart⟩ := writes_whereText (forall₂_filterConditions user filters)
  rw [same]
  exact lex_written apart

/-! ### Filters that differ in their texts only -/

/-- A value with its texts emptied. -/
def withoutTexts : FilterValue → FilterValue
  | .text _ => .text ""
  | .texts values => .texts (values.map fun _ => "")
  | value => value

/-- Filters with the texts of their values emptied. -/
def filtersWithoutTexts (filters : FilterSet) : FilterSet :=
  ⟨filters.filters.map fun filter => { filter with value := withoutTexts filter.value }⟩

/-- A lexeme with its text emptied if it is a literal. -/
def Lexeme.withoutText : Lexeme → Lexeme
  | outside character => outside character
  | literal _ => literal ""

/-- A piece with its text emptied if it is a literal. -/
def Part.withoutText : Part → Part
  | words text => words text
  | literal _ => literal ""

theorem map_withoutText_lexemesOf (parts : List Part) :
    (lexemesOf parts).map Lexeme.withoutText = lexemesOf (parts.map Part.withoutText) := by
  rw [lexemesOf, List.map_flatMap, lexemesOf, List.flatMap_map]
  refine List.flatMap_congr fun part _ => ?_
  cases part with
  | words text =>
    rw [Part.lexemes, List.map_map]
    rfl
  | literal text => rfl

theorem elements_withoutTexts (user : Option Int) (value : FilterValue) :
    (elements user (withoutTexts value)).map Part.withoutText =
      (elements user value).map Part.withoutText := by
  cases value with
  | texts values =>
    simp only [withoutTexts, elements, List.map_map]
    rfl
  | _ => rfl

theorem map_withoutText_intercalate (separator : String) (pieces : List (List Part)) :
    (List.intercalate [.words separator] pieces).map Part.withoutText =
      List.intercalate [.words separator] (pieces.map (List.map Part.withoutText)) := by
  induction pieces with
  | nil => rfl
  | cons piece pieces inductionHypothesis =>
    cases pieces with
    | nil => simp
    | cons next others =>
      rw [List.intercalate_cons_cons, List.map_append, List.map_append, inductionHypothesis]
      simp only [List.map_cons, List.intercalate_cons_cons]
      rfl

theorem map_listTemplate? (column : String) (negated : Bool) (parts : List Part) :
    (listTemplate? column negated parts).map (List.map Part.withoutText) =
      listTemplate? column negated (parts.map Part.withoutText) := by
  match parts with
  | [] => rfl
  | [single] => rfl
  | first :: second :: rest =>
    have pieces : ((first :: second :: rest).map ([·])).map (List.map Part.withoutText) =
        ((first :: second :: rest).map Part.withoutText).map ([·]) := by
      rw [List.map_map, List.map_map]
      rfl
    rw [listTemplate?, Option.map_some, List.map_cons, List.map_append,
      map_withoutText_intercalate, pieces]
    · rfl
    · exact List.cons_ne_nil _ _
    · exact fun _ same => List.cons_ne_nil _ _ (List.cons.inj same).2

/-- The template of a membership does not depend on the texts of its value, but for the texts
inside of literals. -/
theorem membershipTemplate?_congr (column : String) (negated : Bool) (value : FilterValue)
    (user : Option Int) :
    (membershipTemplate? column negated (withoutTexts value) user).map (List.map Part.withoutText) =
      (membershipTemplate? column negated value user).map (List.map Part.withoutText) := by
  have samePlaceholder : withoutTexts value = .currentUser ↔ value = .currentUser := by
    cases value <;> simp [withoutTexts]
  unfold membershipTemplate?
  simp only [samePlaceholder]
  split
  · rfl
  · rw [map_listTemplate?, map_listTemplate?, elements_withoutTexts]

theorem searchTemplate?_congr (column : String) (negated : Bool) (before after : String)
    (value : FilterValue) :
    (searchTemplate? column negated before after (withoutTexts value)).map
        (List.map Part.withoutText) =
      (searchTemplate? column negated before after value).map (List.map Part.withoutText) := by
  cases value with
  | text text => simp only [withoutTexts, searchTemplate?, Option.map_some, List.map_cons,
      Part.withoutText]
  | _ => rfl

theorem map_comparisonTemplate? (column symbol : String) (value : FilterValue)
    (user : Option Int) :
    (comparisonTemplate? column symbol value user).map (List.map Part.withoutText) =
      (((elements user value).map Part.withoutText).head?).map fun element =>
        [.words (column ++ " " ++ symbol ++ " "), element] := by
  rw [comparisonTemplate?, List.head?_map, Option.map_map, Option.map_map]
  rfl

theorem comparisonTemplate?_congr (column symbol : String) (value : FilterValue)
    (user : Option Int) :
    (comparisonTemplate? column symbol (withoutTexts value) user).map (List.map Part.withoutText) =
      (comparisonTemplate? column symbol value user).map (List.map Part.withoutText) := by
  rw [map_comparisonTemplate?, map_comparisonTemplate?, elements_withoutTexts]

theorem betweenTemplate?_congr (column : String) (value : FilterValue) :
    (betweenTemplate? column (withoutTexts value)).map (List.map Part.withoutText) =
      (betweenTemplate? column value).map (List.map Part.withoutText) := by
  cases value <;> rfl

theorem fixedTemplate?_congr (column : String) (value : FilterValue) (user : Option Int)
    (kind : FixedKind) :
    (fixedTemplate? column (withoutTexts value) user kind).map (List.map Part.withoutText) =
      (fixedTemplate? column value user kind).map (List.map Part.withoutText) := by
  cases kind with
  | equals | notEquals => exact membershipTemplate?_congr column _ value user
  | contains | notContains | startsWith | endsWith =>
    exact searchTemplate?_congr column _ _ _ value
  | greaterThan | greaterOrEqual | lessThan | lessOrEqual =>
    exact comparisonTemplate?_congr column _ value user
  | between => exact betweenTemplate?_congr column value
  | _ => rfl

theorem isValid_withoutTexts (filter : Filter) :
    Filter.isValid { filter with value := withoutTexts filter.value } = filter.isValid := by
  obtain ⟨property, operator, value⟩ := filter
  cases value <;> rfl

/-- The template of a filter does not depend on the texts of its value, but for the texts inside
of literals. -/
theorem template?_congr (user : Option Int) (filter : Filter) :
    (template? user { filter with value := withoutTexts filter.value }).map
        (List.map Part.withoutText) =
      (template? user filter).map (List.map Part.withoutText) := by
  unfold template?
  rw [isValid_withoutTexts]
  split
  · cases filterColumn? filter.property with
    | none => rfl
    | some column =>
      cases operator : filter.operator with
      | fixed kind => exact fixedTemplate?_congr column.text filter.value user kind
      | relative kind days => rfl
  · rfl

/-- The template of a filter set does not depend on the texts of its values, but for the texts
inside of literals. -/
theorem clauseTemplate_congr (user : Option Int) (filters : FilterSet) :
    (clauseTemplate user (filtersWithoutTexts filters)).map Part.withoutText =
      (clauseTemplate user filters).map Part.withoutText := by
  unfold clauseTemplate
  rw [map_withoutText_intercalate, map_withoutText_intercalate, List.map_filterMap,
    List.map_filterMap, filtersWithoutTexts, List.filterMap_map]
  refine congrArg _ (List.filterMap_congr fun filter _ => ?_)
  exact template?_congr user filter

/-! ### The clause of a filter set -/

/-- Read by the database's rule, the clause of any filter set leaves no literal open and consists of
the templates of the filters that are kept; whatever its texts are, nothing changes outside of
literals. -/
theorem lex_whereText (user : Option Int) :
    (∀ filters : FilterSet, lex (whereText (filterConditions user filters)) =
      some (lexemesOf (clauseTemplate user filters))) ∧
    ∀ left right : FilterSet, filtersWithoutTexts left = filtersWithoutTexts right →
      (lex (whereText (filterConditions user left))).map (List.map Lexeme.withoutText) =
        (lex (whereText (filterConditions user right))).map (List.map Lexeme.withoutText) := by
  refine ⟨lex_whereText_eq user, fun left right same => ?_⟩
  rw [lex_whereText_eq, lex_whereText_eq, Option.map_some, Option.map_some,
    map_withoutText_lexemesOf, map_withoutText_lexemesOf, ← clauseTemplate_congr user left, same,
    clauseTemplate_congr]

/-- A comparison and a search with the texts given. -/
def textFilters (compared searched : String) : FilterSet :=
  ⟨[.equals "subject" (.text compared), .contains "description" searched]⟩

/-- Texts that try to close their literals, or to stand for more than themselves, are each read as
one literal, and nothing else differs from harmless texts. -/
theorem lex_whereText_attack :
    lex (whereText (filterConditions none (textFilters "' OR '1'='1" "100%' --\\"))) =
        some (lexemesOf [.words "wp.subject = ", .literal "' OR '1'='1", .words " AND ",
          .words "wp.description ILIKE ", .literal "%100\\%' --\\\\%"]) ∧
      filtersWithoutTexts (textFilters "' OR '1'='1" "100%' --\\") =
        filtersWithoutTexts (textFilters "ok" "x") ∧
      (lex (whereText (filterConditions none (textFilters "' OR '1'='1" "100%' --\\")))).map
          (List.map Lexeme.withoutText) =
        (lex (whereText (filterConditions none (textFilters "ok" "x")))).map
          (List.map Lexeme.withoutText) := by
  have template : clauseTemplate none (textFilters "' OR '1'='1" "100%' --\\") =
      [.words "wp.subject = ", .literal "' OR '1'='1", .words " AND ",
        .words "wp.description ILIKE ", .literal "%100\\%' --\\\\%"] := by decide +kernel
  exact ⟨template ▸ (lex_whereText none).1 _, rfl, (lex_whereText none).2 _ _ rfl⟩

end WorkQuery.Sql
