/-
This file says when a saved row is read back as a query. Everything a row keeps beside its filters
is read back as it was written (`toQuery_of_parts`): the families by their names, the columns by
theirs, the sort order by its compact form. So it rests with the filters, and a row is unreadable
exactly if it keeps a stray day count (`toQuery_isOk_iff`).
-/

import WorkQuery.Proofs.DayCount
import WorkQuery.Saved.Row

namespace WorkQuery

open CompactForm Json Number Schema Text

/-! ### Columns -/

namespace Column

theorem isDigitLike_of_isDigit {digit : Char} (isDigit : digit.isDigit = true) :
    isDigitLike digit = true := by
  rw [isDigitLike, decimalDigit?_of_isDigit digit isDigit]
  rfl

theorem isPrefixOf_marked (rest : String) :
    customFieldMark.toList.isPrefixOf (customFieldMark ++ rest).toList = true := by
  rw [String.toList_append, List.isPrefixOf_iff_prefix]
  exact List.prefix_append _ _

/-- No standard column is named like a custom field. -/
theorem standard?_marked (rest : String) : standard? (customFieldMark ++ rest) = none := by
  have unmarked : ∀ column ∈ catalogue,
      customFieldMark.toList.isPrefixOf column.name.toList = false := by decide
  rw [standard?, List.find?_eq_none]
  intro column member named
  have marked := isPrefixOf_marked rest
  rw [← beq_iff_eq.mp named, unmarked column member] at marked
  cases marked

theorem drop_marked (rest : String) :
    (customFieldMark ++ rest).toList.drop customFieldMark.length = rest.toList := by
  rw [String.toList_append]
  exact List.drop_left

/-- The name of a custom-field column reads as one, since its number has digits only. -/
theorem looksCustom_customFieldName {id : Int} (natural : 0 ≤ id) :
    looksCustom (customFieldName id) = true := by
  have areDigits : ∀ digit ∈ (integerText id).toList, isDigitLike digit = true := by
    rw [toList_integerText, if_neg (not_lt.mpr natural), List.nil_append]
    exact fun digit member => isDigitLike_of_isDigit (isDigit_of_mem_toDigits member)
  have present : (integerText id).toList.isEmpty = false := by
    rw [Bool.eq_false_iff]
    intro empty
    exact integerText_ne_empty id (String.toList_eq_nil_iff.mp (List.isEmpty_iff.mp empty))
  rw [looksCustom, customFieldName]
  rw [drop_marked, isPrefixOf_marked, present, List.all_eq_true.mpr areDigits]
  rfl

theorem name_of_standard? {name : String} {column : Column}
    (found : standard? name = some column) : column.name = name := by
  have named := List.find?_some found
  exact beq_iff_eq.mp named

/-- A name that reads as that of a custom field has no sign before its number. -/
theorem hyphen_notMem_of_looksCustom {name : String} (custom : looksCustom name = true) :
    '-' ∉ name.toList.drop customFieldMark.length := by
  intro member
  rw [looksCustom, Bool.and_eq_true, List.all_eq_true] at custom
  exact absurd (custom.2 _ member) (by decide)

/-- A column is found again under the name that it was given. -/
theorem ofName_name {name : String} {column : Column} (found : ofName name = .ok column) :
    ofName column.name = .ok column := by
  have given := found
  unfold ofName at found
  split at found
  · rename_i standard isStandard
    obtain rfl := Except.ok.inj found
    rw [name_of_standard? isStandard]
    exact given
  · split at found
    · rename_i custom
      obtain ⟨id, read, rfl⟩ := map_eq_ok.mp found
      have read := mapError_eq_ok.mp read
      have natural : 0 ≤ id := by
        refine nonneg_of_readInteger ?_ read
        rw [String.toList_ofList]
        exact hyphen_notMem_of_looksCustom custom
      change ofName (customFieldName id) = _
      rw [ofName, if_pos (looksCustom_customFieldName natural), customFieldName, standard?_marked]
      dsimp only
      rw [drop_marked, String.ofList_toList,
        readInteger_integerText (natAbs_lt_of_readInteger read)]
      rfl
    · obtain rfl := Except.ok.inj found
      exact given

end Column

namespace ColumnSet

theorem forall_ofNames {names : List String} {set : ColumnSet} (found : ofNames names = .ok set) :
    ∀ column ∈ set.columns, Column.ofName column.name = .ok column := by
  obtain ⟨columns, read, rfl⟩ := map_eq_ok.mp found
  exact forall_mem_of_mapM (fun _ _ => Column.ofName_name) read

theorem forall_standard : ∀ column ∈ standard.columns, Column.ofName column.name = .ok column := by
  have found : ofNames Column.defaultNames = .ok standard := rfl
  exact forall_ofNames found

/-- Columns are read back from their names. -/
theorem ofNames_names {set : ColumnSet}
    (found : ∀ column ∈ set.columns, Column.ofName column.name = .ok column) :
    ofNames set.names = .ok set := by
  refine map_eq_ok.mpr ⟨set.columns, mapM_of_forall₂ ?_, rfl⟩
  rw [names, List.forall₂_map_left_iff, List.forall₂_same]
  exact found

theorem ofNameValues_names {set : ColumnSet}
    (found : ∀ column ∈ set.columns, Column.ofName column.name = .ok column) :
    ofNameValues (.texts set.names) = .ok set := by
  have columns : (set.names.map Value.text).mapM Column.ofNameValue = .ok set.columns := by
    refine mapM_of_forall₂ ?_
    rw [names, List.map_map, List.forall₂_map_left_iff, List.forall₂_same]
    intro column member
    change (Column.ofName column.name).mapError _ = _
    rw [found column member]
    rfl
  change ((set.names.map Value.text).mapM Column.ofNameValue >>= fun columns =>
    .ok (ColumnSet.mk columns)) = _
  rw [columns]
  rfl

end ColumnSet

/-! ### Families -/

theorem Visibility.ofName?_name (visibility : Visibility) :
    ofName? visibility.name = some visibility := by
  cases visibility <;> decide

theorem HighlightMode.ofName?_name (mode : HighlightMode) : ofName? mode.name = some mode := by
  cases mode <;> decide

theorem ZoomLevel.ofName?_name (level : ZoomLevel) : ofName? level.name = some level := by
  cases level <;> decide

theorem Representation.ofName?_name (representation : Representation) :
    ofName? representation.name = some representation := by
  cases representation <;> decide

theorem Representation.parse?_name (representation : Representation) :
    parse? representation.name = some representation := by
  cases representation <;> decide

theorem Representation.name_ne_empty (representation : Representation) :
    representation.name.isEmpty = false := by
  cases representation <;> decide

namespace RawRow

theorem familyMember_text {Content : Type} (family : String) {ofName? : String → Option Content}
    {name : String} {member : Content} (found : ofName? name = some member) :
    familyMember family ofName? (.text name) = .ok member := by
  unfold familyMember
  rw [Value.text?, Option.bind_some, found]

theorem representation_name (display : Representation) :
    representation (.text display.name) = .ok display := by
  unfold representation Representation.ofWord looseTextFor
  rw [Value.isVoid, display.name_ne_empty, if_neg Bool.false_ne_true]
  change Except.ok ((Representation.parse? display.name).getD .list) = _
  rw [display.parse?_name]
  rfl

theorem orEmpty_list (items : List Value) : orEmpty (.list items) = .list items := by
  cases items <;> rfl

theorem orEmpty_filtersValue (filters : FilterSet) :
    orEmpty (filtersValue filters) = filtersValue filters := orEmpty_list _

theorem orEmpty_sortsValue (order : SortOrder) : orEmpty (sortsValue order) = sortsValue order :=
  orEmpty_list _

theorem storedColumns_texts (names : List String) :
    storedColumns (.texts names) = ColumnSet.ofNameValues (.texts names) := rfl

theorem readItems_texts (start : Nat) (words : List String) :
    Schema.readItems Schema.text start (words.map .text) = .ok words := by
  induction words generalizing start with
  | nil => rfl
  | cons word words inductionHypothesis =>
    rw [List.map_cons, Schema.readItems, inductionHypothesis]
    rfl

theorem storedHighlighting_texts (highlighting : Highlighting) :
    storedHighlighting (.text highlighting.mode.name) (.texts highlighting.properties) =
      .ok highlighting := by
  unfold storedHighlighting
  rw [familyMember_text _ highlighting.mode.ofName?_name, ok_bind, Value.texts, orEmpty_list,
    elements, ok_bind, readItems_texts]
  rfl

theorem flag_bool (truth : Bool) : flag (.bool truth) = truth := by
  cases truth <;> rfl

theorem nullable_texts (content : Option String) :
    nullable Schema.text (.ofOption .text content) = .ok content := by
  cases content <;> rfl

theorem nullable_integers (content : Option Int) :
    nullable integer (.ofOption .int content) = .ok content := by
  cases content <;> rfl

theorem within_ok {Content : Type} (step : Step) (content : Content) :
    within step (.ok content) = .ok content := rfl

end RawRow

/-! ### Queries -/

namespace Query

/-- What is known of a query whose parts have been read. -/
structure IsParsed (query : Query) : Prop where
  name : Text.holdsHalf query.name = false
  filters : ∀ filter ∈ query.filters.filters, IsRead filter
  sorts : ∀ criterion ∈ query.sorts.criteria, criterion.property ≠ ""
  columns : ∀ column ∈ query.columns.columns, Column.ofName column.name = .ok column

theorem isParsed_withUser {query : Query} (parsed : query.IsParsed) (user : Int) :
    (query.withUser user).IsParsed :=
  ⟨parsed.name, parsed.filters, parsed.sorts, parsed.columns⟩

/-- The query with another number and owner and other filters. -/
def ofRow (query : Query) (row : SavedRow) (filters : FilterSet) : Query :=
  { query with id := some row.id, userId := some row.userId, filters }

end Query

namespace SavedRow

/-- A row that keeps a query is read back as that query, as far as its filters are read back, if the
criteria of the query name properties and its columns are found under their names. -/
theorem toQuery_of_parts {row : SavedRow} {query : Query} (keeps : row.content = .ofQuery query)
    (named : ∀ criterion ∈ query.sorts.criteria, criterion.property ≠ "")
    (found : ∀ column ∈ query.columns.columns, Column.ofName column.name = .ok column) :
    row.toQuery = (parseFilters (filtersValue query.filters)).map (query.ofRow row) := by
  unfold toQuery RawRow.toQuery raw
  rw [keeps]
  unfold SavedContent.ofQuery
  dsimp only
  rw [RawRow.familyMember_text _ query.visibility.ofName?_name, ok_bind,
    RawRow.representation_name, ok_bind, RawRow.orEmpty_filtersValue]
  cases parseFilters (filtersValue query.filters) with
  | error failure => rfl
  | ok filters =>
    rw [ok_bind, RawRow.orEmpty_sortsValue, parseSorts_of_named named, ok_bind,
      RawRow.storedColumns_texts, ColumnSet.ofNameValues_names found, ok_bind,
      RawRow.nullable_texts, RawRow.within_ok, ok_bind, RawRow.storedHighlighting_texts, ok_bind,
      RawRow.familyMember_text _ query.zoom.ofName?_name, ok_bind, RawRow.nullable_integers]
    simp only [RawRow.flag_bool]
    rfl

theorem toQuery_ofQuery {row : SavedRow} {query : Query} (keeps : row.content = .ofQuery query)
    (parsed : query.IsParsed) :
    row.toQuery = (parseFilters (filtersValue query.filters)).map (query.ofRow row) :=
  toQuery_of_parts keeps parsed.sorts parsed.columns

/-- The row with its star changed keeps the query with its star changed. -/
theorem content_withStar {row : SavedRow} {query : Query} (keeps : row.content = .ofQuery query)
    (starred : Bool) : (row.withStar starred).content = .ofQuery (query.withStar starred) := by
  rw [withStar, keeps]
  rfl

end SavedRow

/-! ### Readable rows -/

theorem isRead_of_parseFilters {raw : Value} {filters : FilterSet}
    (parsed : parseFilters raw = .ok filters) : ∀ filter ∈ filters.filters, IsRead filter := by
  have related := forall₂_givenMembers parsed
  clear parsed
  generalize givenMembers raw = members, filters.filters = found at related ⊢
  induction related with
  | nil => exact List.forall_mem_nil _
  | cons first _ inductionHypothesis =>
    exact List.forall_mem_cons.mpr ⟨isRead_of_parseMember first, inductionHypothesis⟩

namespace SavedRow

/-- A row whose filters keep a stray day count. -/
def KeepsStray (row : SavedRow) : Prop :=
  ∃ filters, row.content.filters = filtersValue filters ∧
    (∀ filter ∈ filters.filters, IsRead filter) ∧ ∃ filter ∈ filters.filters, IsStray filter

/-- A row that keeps a parsed query. -/
def KeepsParsed (row : SavedRow) : Prop :=
  ∃ query, row.content = .ofQuery query ∧ Query.IsParsed query

theorem keepsParsed_withStar {row : SavedRow} (keeps : row.KeepsParsed) (starred : Bool) :
    (row.withStar starred).KeepsParsed := by
  obtain ⟨query, keeps, parsed⟩ := keeps
  exact ⟨query.withStar starred, content_withStar keeps starred, parsed.name, parsed.filters,
    parsed.sorts, parsed.columns⟩

/-- What is read from a row that keeps a parsed query is parsed. -/
theorem isParsed_of_toQuery {row : SavedRow} {query : Query} (keeps : row.KeepsParsed)
    (read : row.toQuery = .ok query) : query.IsParsed := by
  obtain ⟨kept, keeps, parsed⟩ := keeps
  rw [toQuery_ofQuery keeps parsed] at read
  obtain ⟨filters, readFilters, rfl⟩ := map_eq_ok.mp read
  exact ⟨parsed.name, isRead_of_parseFilters readFilters, parsed.sorts, parsed.columns⟩

/-- A row that keeps a parsed query can be read back exactly if it keeps no stray day count. -/
theorem toQuery_isOk_iff {row : SavedRow} (keeps : row.KeepsParsed) :
    (∃ query, row.toQuery = .ok query) ↔ ¬row.KeepsStray := by
  obtain ⟨kept, keeps, parsed⟩ := keeps
  have parts : (∃ query, row.toQuery = .ok query) ↔
      ∃ filters, parseFilters row.content.filters = .ok filters := by
    rw [toQuery_ofQuery keeps parsed, keeps]
    constructor
    · rintro ⟨query, read⟩
      obtain ⟨filters, readFilters, -⟩ := map_eq_ok.mp read
      exact ⟨filters, readFilters⟩
    · rintro ⟨filters, readFilters⟩
      exact ⟨_, map_eq_ok.mpr ⟨filters, readFilters, rfl⟩⟩
  rw [parts]
  constructor
  · rintro readable ⟨filters, same, read, filter, member, stray⟩
    rw [same, parseFilters_filtersValue_iff read] at readable
    exact readable filter member stray
  · intro ordinary
    rw [keeps]
    refine (parseFilters_filtersValue_iff parsed.filters).mpr fun filter member stray => ?_
    exact ordinary ⟨kept.filters, congrArg SavedContent.filters keeps, parsed.filters, filter,
      member, stray⟩

end SavedRow

end WorkQuery
