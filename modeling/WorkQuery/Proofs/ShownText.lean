/-
This file finds the texts in an answer that may hold half of a surrogate pair. Such an answer cannot
be written. Of everything that a saved row keeps, an answer shows as it was given only its name, the
texts that its filters compare with, the properties that it is sorted and grouped by and the names
of its columns (`holdsHalf_rowAnswer`); all other texts of an answer are the library's own, and the
properties of filters are cleaned.
-/

import WorkQuery.Proofs.StoredQuery
import WorkQuery.Service.Answer

namespace WorkQuery

open CompactForm Json Number Schema

/-! ### Texts without halves -/

namespace Text

theorem holdsHalf_of_notMem {text : String} (plain : mark ∉ text.toList) :
    holdsHalf text = false := by
  unfold holdsHalf
  rw [symbols_of_notMem plain, List.any_map, List.any_eq_false]
  exact fun _ _ => Bool.false_ne_true

theorem holdsHalf_ofSymbols (kept : List Symbol) :
    holdsHalf (ofSymbols kept) = kept.any fun symbol => symbol matches .half _ := by
  have same : symbols (ofSymbols kept).toList = kept := by
    rw [ofSymbols, String.toList_ofList, symbols_written]
  exact congrArg (fun found : List Symbol => found.any fun symbol => symbol matches .half _) same

/-- The symbols that stand for one when halves are replaced. -/
def Symbol.cleaned (symbol : Symbol) : List Symbol :=
  if symbol matches .half _ then List.replicate 3 (.character replacement) else [symbol]

theorem withoutHalves_eq_ofSymbols (text : String) :
    withoutHalves text = ofSymbols ((symbols text.toList).flatMap Symbol.cleaned) := by
  rw [withoutHalves, ofSymbols, List.flatMap_assoc]
  congr 2
  funext symbol
  cases symbol with
  | character character => exact (List.append_nil _).symm
  | half place => rfl

/-- A text whose halves were replaced holds none. -/
theorem holdsHalf_withoutHalves (text : String) : holdsHalf (withoutHalves text) = false := by
  rw [withoutHalves_eq_ofSymbols, holdsHalf_ofSymbols, List.any_eq_false]
  intro symbol member
  obtain ⟨given, -, member⟩ := List.mem_flatMap.mp member
  cases given with
  | character character =>
    obtain rfl : symbol = .character character := List.mem_singleton.mp member
    exact Bool.false_ne_true
  | half place =>
    obtain rfl : symbol = .character replacement := List.eq_of_mem_replicate member
    exact Bool.false_ne_true

end Text

namespace Json.Value

theorem itemsHoldHalf_eq_any (items : List Value) : itemsHoldHalf items = items.any holdsHalf := by
  induction items with
  | nil => rfl
  | cons item items inductionHypothesis => rw [itemsHoldHalf, inductionHypothesis, List.any_cons]

theorem holdsHalf_list_eq_false {items : List Value} :
    (list items).holdsHalf = false ↔ ∀ item ∈ items, item.holdsHalf = false := by
  rw [holdsHalf, itemsHoldHalf_eq_any, List.any_eq_false]
  exact forall₂_congr fun item _ => Bool.eq_false_iff.symm

theorem holdsHalf_texts (words : List String) :
    (texts words).holdsHalf = words.any Text.holdsHalf := by
  rw [texts, holdsHalf, itemsHoldHalf_eq_any, List.any_map]
  rfl

theorem holdsHalf_ofOption_text (content : Option String) :
    (ofOption .text content).holdsHalf = content.any Text.holdsHalf := by
  cases content <;> rfl

theorem holdsHalf_ofOption_int (content : Option Int) :
    (ofOption .int content).holdsHalf = false := by
  cases content <;> rfl

/-- Where no name of a member holds a half, the values of the members decide. -/
theorem holdsHalf_object {fields : Fields}
    (names : (fields.map Prod.fst).any Text.holdsHalf = false) :
    (object fields).holdsHalf = fields.any fun field => field.2.holdsHalf := by
  rw [holdsHalf]
  induction fields with
  | nil => rfl
  | cons field fields inductionHypothesis =>
    rw [List.map_cons, List.any_cons, Bool.or_eq_false_iff] at names
    rw [fieldsHoldHalf, names.1, Bool.false_or, inductionHypothesis names.2, List.any_cons]

end Json.Value

/-! ### The library's own texts -/

theorem holdsHalf_of_allPlain {text : String} (plain : AllPlain text) :
    Text.holdsHalf text = false :=
  Text.holdsHalf_of_notMem fun member => (plain _ member).notMark rfl

theorem holdsHalf_integerText (value : Int) : Text.holdsHalf (integerText value) = false :=
  holdsHalf_of_allPlain (Binary64.allPlain_integerText value)

theorem holdsHalf_numberText (number : Binary64) : Text.holdsHalf (numberText number) = false := by
  unfold numberText
  split
  · exact holdsHalf_integerText _
  · exact holdsHalf_of_allPlain number.allPlain_text

theorem allPlain_paddedText (width value : Nat) : AllPlain (paddedText width value) := by
  intro character member
  exact isPlain_of_isDigit (isDigit_of_mem_paddedText member)

theorem holdsHalf_dateText (date : Calendar.Date) : Text.holdsHalf date.text = false := by
  have hyphen : AllPlain "-" := allPlain_of_signs (by decide)
  refine holdsHalf_of_allPlain ?_
  exact allPlain_append (allPlain_append (allPlain_append (allPlain_append
    (allPlain_paddedText _ _) hyphen) (allPlain_paddedText _ _)) hyphen) (allPlain_paddedText _ _)

theorem holdsHalf_visibility (visibility : Visibility) :
    Text.holdsHalf visibility.name = false := by
  cases visibility <;> decide

theorem holdsHalf_display (display : Representation) : Text.holdsHalf display.name = false := by
  cases display <;> decide

theorem holdsHalf_mode (mode : HighlightMode) : Text.holdsHalf mode.name = false := by
  cases mode <;> decide

theorem holdsHalf_zoom (zoom : ZoomLevel) : Text.holdsHalf zoom.name = false := by
  cases zoom <;> decide

theorem holdsHalf_code (operator : Operator) : Text.holdsHalf operator.code = false := by
  cases operator with
  | fixed kind => cases kind <;> decide
  | relative kind days =>
    refine Text.holdsHalf_of_notMem fun member => ?_
    rw [Operator.code, String.toList_append, List.mem_append] at member
    rcases member with inMark | inDays
    · revert inMark
      cases kind <;> decide
    · exact (Binary64.allPlain_integerText days _ inDays).notMark rfl

/-! ### Texts of filters -/

namespace CompactForm

/-- The texts that a value holds, identifiers aside. -/
def givenTexts : FilterValue → List String
  | .text value => [value]
  | .texts values => values
  | _ => []

/-- Of the words of a value only its texts may hold half of a surrogate pair. -/
theorem any_valueTexts (value : FilterValue) :
    (valueTexts value).any Text.holdsHalf = (givenTexts value).any Text.holdsHalf := by
  cases value with
  | text value => rfl
  | texts values => rfl
  | id value => simp [valueTexts, FilterValue.toTexts, givenTexts, holdsHalf_integerText]
  | ids values => simp [valueTexts, FilterValue.toTexts, givenTexts, holdsHalf_integerText]
  | truth value => cases value <;> decide
  | date date => simp [valueTexts, givenTexts, holdsHalf_dateText]
  | dates first last => simp [valueTexts, givenTexts, holdsHalf_dateText]
  | number number => simp [valueTexts, givenTexts, holdsHalf_numberText]
  | currentUser => decide
  | absent => rfl

theorem effectiveClass_ne_free_of_days? {property : String} {operator : Operator} {days : Int}
    (counts : operator.days? = some days) : effectiveClass property operator ≠ .free := by
  intro isClass
  have relative := isRelative_of_days? counts
  rw [(effectiveClass_eq_free isClass).2] at relative
  cases relative

theorem givenTexts_ofIds (ids : List Int) : givenTexts (.ofIds ids) = [] := by
  unfold FilterValue.ofIds
  split <;> rfl

/-- Whether words are read as texts under a property and an operator. -/
structure ReadsTexts (property : String) (operator : Operator) (words : List String) : Prop where
  isClass : effectiveClass property operator = .free
  nonempty : words ≠ []
  impersonal : ¬(words.contains placeholder ∧ IsPersonal property operator)

/-- Words that are not read as texts are read as a value that holds none. -/
theorem givenTexts_of_typedWords {property : String} {operator : Operator} {words : List String}
    {value : FilterValue} (others : ¬ReadsTexts property operator words)
    (read : typedWords property operator words = .ok value) : givenTexts value = [] := by
  cases holds_of_typedWords read with
  | texts isClass nonempty impersonal => exact absurd ⟨isClass, nonempty, impersonal⟩ others
  | identifiers => exact givenTexts_ofIds _
  | _ => rfl

/-- Reading the words of a value again gives the texts that the value holds, and no others. -/
theorem givenTexts_typedWords {property : String} {operator : Operator} {words : List String}
    {value again : FilterValue} (holds : HoldsWords property operator words value)
    (read : typedWords property operator (valueTexts value) = .ok again) :
    givenTexts again = givenTexts value := by
  cases holds with
  | texts isClass nonempty impersonal =>
    rw [valueTexts_ofTexts, typedWords_texts isClass nonempty impersonal] at read
    rw [← Except.ok.inj read]
  | absent => exact givenTexts_of_typedWords (fun reads => reads.nonempty rfl) read
  | count counts =>
    exact givenTexts_of_typedWords
      (fun reads => effectiveClass_ne_free_of_days? counts reads.isClass) read
  | placeholder personal =>
    exact givenTexts_of_typedWords (fun reads => reads.impersonal ⟨rfl, personal⟩) read
  | identifiers isClass =>
    rw [givenTexts_ofIds]
    refine givenTexts_of_typedWords (fun reads => ?_) read
    exact absurd ((effectiveClass_of_identifier.mpr isClass).symm.trans reads.isClass) nofun
  | truth isClass | day isClass | number isClass =>
    refine givenTexts_of_typedWords (fun reads => ?_) read
    exact absurd (isClass.symm.trans reads.isClass) nofun

/-- What is read of a written filter holds the same texts as the filter. -/
theorem givenTexts_parseMember {filter again : Filter} (read : IsRead filter)
    (parsed : parseMember filter.property (memberBody filter) = .ok again) :
    givenTexts again.value = givenTexts filter.value := by
  obtain ⟨property, operator, value⟩ := filter
  rw [parseMember_memberBody read] at parsed
  obtain ⟨other, typed, rfl⟩ := map_eq_ok.mp parsed
  cases read.holds with
  | range isRange first last =>
    obtain rfl := isRange
    have same := (typedValue_dates property first last).symm.trans typed
    rw [← Except.ok.inj same]
  | words noRange holds =>
    refine givenTexts_typedWords holds ?_
    rw [← typedValue_texts _ noRange]
    exact typed

/-- Whether half of a surrogate pair stands in a text that a filter compares with. -/
def filtersHoldHalf (filters : FilterSet) : Bool :=
  filters.filters.any fun filter => (givenTexts filter.value).any Text.holdsHalf

theorem filtersHoldHalf_again {filters again : FilterSet}
    (read : ∀ filter ∈ filters.filters, IsRead filter)
    (parsed : parseFilters (filtersValue filters) = .ok again) :
    filtersHoldHalf again = filtersHoldHalf filters := by
  have same := map_of_parseFilters
    (fun filter member _ => givenTexts_parseMember (read filter member)) parsed
  have whole (filters : FilterSet) : filtersHoldHalf filters =
      (filters.filters.map fun filter => givenTexts filter.value).any
        fun texts => texts.any Text.holdsHalf := by
    rw [List.any_map]
    rfl
  rw [whole, whole, same]

theorem holdsHalf_sortsValue (order : SortOrder) :
    (sortsValue order).holdsHalf =
      order.criteria.any fun criterion => Text.holdsHalf criterion.property := by
  rw [sortsValue, Value.holdsHalf, Value.itemsHoldHalf_eq_any, List.any_map]
  refine congrArg (List.any order.criteria) (funext fun criterion => ?_)
  have named : Text.holdsHalf criterion.direction.name = false := by
    cases criterion.direction <;> decide
  rw [Function.comp_apply, Value.holdsHalf_texts, List.any_cons, List.any_cons, named]
  simp

end CompactForm

/-! ### Answers -/

namespace Service

theorem savedFilters_eq (filters : FilterSet) :
    savedFilters filters = .list (filters.filters.map fun filter =>
      .object [(Text.withoutHalves filter.property, memberBody filter)]) := by
  unfold savedFilters filtersValue
  dsimp only
  rw [List.map_map]
  rfl

theorem holdsHalf_memberBody (filter : Filter) :
    (memberBody filter).holdsHalf = (givenTexts filter.value).any Text.holdsHalf := by
  have operator : Text.holdsHalf "operator" = false := by decide
  have values : Text.holdsHalf "values" = false := by decide
  simp only [memberBody, Value.holdsHalf, Value.fieldsHoldHalf, holdsHalf_code, operator, values,
    Value.holdsHalf_texts, any_valueTexts, Bool.false_or, Bool.or_false]

theorem holdsHalf_savedFilters (filters : FilterSet) :
    (savedFilters filters).holdsHalf = filtersHoldHalf filters := by
  rw [savedFilters_eq, Value.holdsHalf, Value.itemsHoldHalf_eq_any, List.any_map, filtersHoldHalf]
  refine congrArg (List.any filters.filters) (funext fun filter => ?_)
  rw [Function.comp_apply, Value.holdsHalf, Value.fieldsHoldHalf, Text.holdsHalf_withoutHalves,
    holdsHalf_memberBody]
  simp only [Value.fieldsHoldHalf, Bool.false_or, Bool.or_false]

/-- The names of the members of an answer. -/
def answerNames : List String :=
  ["id", "user_id", "name", "project_id", "visibility", "starred", "display", "filters", "sortBy",
   "columns", "groupBy", "highlighting_mode", "timeline_zoom_level", "show_timeline",
   "include_subprojects", "show_hierarchies", "show_sums"]

theorem holdsHalf_answerNames : answerNames.any Text.holdsHalf = false := by decide

/-- The texts of an answer that are not the library's own. -/
theorem holdsHalf_rowAnswer {row : SavedRow} {query : Query} (read : row.toQuery = .ok query) :
    ∃ answer, rowAnswer row = .ok answer ∧ answer.holdsHalf =
      (Text.holdsHalf query.name || filtersHoldHalf query.filters ||
        (query.sorts.criteria.any fun criterion => Text.holdsHalf criterion.property) ||
        query.columns.names.any Text.holdsHalf || query.grouping.property.any Text.holdsHalf) := by
  unfold rowAnswer
  rw [read]
  refine ⟨_, rfl, ?_⟩
  rw [Value.holdsHalf_object (by exact holdsHalf_answerNames)]
  simp only [List.any_cons, List.any_nil, Value.holdsHalf, Value.holdsHalf_ofOption_int,
    Value.holdsHalf_ofOption_text, Value.holdsHalf_texts, holdsHalf_savedFilters,
    holdsHalf_sortsValue, holdsHalf_visibility, holdsHalf_display, holdsHalf_mode, holdsHalf_zoom,
    Bool.false_or, Bool.or_false, Bool.or_assoc]

end Service

/-! ### Rows that can be answered with -/

namespace SavedRow

/-- A row that keeps half of a surrogate pair where an answer shows it: in a text that a filter
compares with, in a property that is sorted by, or in the name of a column. -/
def KeepsHalf (row : SavedRow) : Prop :=
  (∃ filters, row.content.filters = filtersValue filters ∧
    (∀ filter ∈ filters.filters, IsRead filter) ∧ filtersHoldHalf filters = true) ∨
  row.content.sortCriteria.holdsHalf = true ∨
  row.content.columnNames.any Text.holdsHalf = true

/-- A row that cannot be answered with. -/
def IsFaulty (row : SavedRow) : Prop :=
  row.KeepsStray ∨ row.KeepsHalf

/-- What is known of the rows of the table. -/
structure IsSound (row : SavedRow) : Prop where
  keeps : row.KeepsParsed
  groupBy : row.content.groupBy.any Text.holdsHalf = false

/-- Of a readable row that keeps a query, the texts that an answer shows are those of the query. -/
theorem keepsHalf_iff {row : SavedRow} {query : Query} {again : FilterSet}
    (keeps : row.content = .ofQuery query) (parsed : query.IsParsed)
    (read : parseFilters (filtersValue query.filters) = .ok again) :
    row.KeepsHalf ↔ filtersHoldHalf again = true ∨
      (query.sorts.criteria.any fun criterion => Text.holdsHalf criterion.property) = true ∨
      query.columns.names.any Text.holdsHalf = true := by
  unfold KeepsHalf
  rw [keeps, ← holdsHalf_sortsValue]
  refine or_congr_left ⟨?_, fun half => ?_⟩
  · rintro ⟨filters, same, readFilters, half⟩
    rw [← half]
    refine filtersHoldHalf_again readFilters ?_
    rw [← same]
    exact read
  · refine ⟨query.filters, rfl, parsed.filters, ?_⟩
    rw [← half]
    exact (filtersHoldHalf_again parsed.filters read).symm

/-- The answer with a readable row holds half of a surrogate pair exactly if the row keeps one. -/
theorem holdsHalf_rowAnswer_iff {row : SavedRow} {query : Query} {again : FilterSet}
    (keeps : row.content = .ofQuery query) (parsed : query.IsParsed)
    (groupBy : query.grouping.property.any Text.holdsHalf = false)
    (read : parseFilters (filtersValue query.filters) = .ok again) :
    ∃ answer, Service.rowAnswer row = .ok answer ∧ (answer.holdsHalf = false ↔ ¬row.KeepsHalf) := by
  have toQuery := toQuery_ofQuery keeps parsed
  rw [read] at toQuery
  obtain ⟨answer, answered, holds⟩ := Service.holdsHalf_rowAnswer toQuery
  refine ⟨answer, answered, ?_⟩
  have shown : answer.holdsHalf = (filtersHoldHalf again ||
      (query.sorts.criteria.any fun criterion => Text.holdsHalf criterion.property) ||
      query.columns.names.any Text.holdsHalf) := by
    rw [holds]
    change (Text.holdsHalf query.name || filtersHoldHalf again ||
      (query.sorts.criteria.any fun criterion => Text.holdsHalf criterion.property) ||
      query.columns.names.any Text.holdsHalf || query.grouping.property.any Text.holdsHalf) = _
    rw [parsed.name, groupBy, Bool.false_or, Bool.or_false]
  rw [keepsHalf_iff keeps parsed read, shown, ← Bool.not_eq_true, Bool.or_eq_true, Bool.or_eq_true,
    or_assoc]

/-- A row of the table can be answered with unless it is faulty. -/
theorem isWritable_rowAnswer_iff {row : SavedRow} (sound : row.IsSound) :
    (∃ answer, Service.rowAnswer row = .ok answer ∧ answer.holdsHalf = false) ↔
      ¬row.IsFaulty := by
  rw [IsFaulty, not_or, ← toQuery_isOk_iff sound.keeps]
  obtain ⟨query, keeps, parsed⟩ := sound.keeps
  have groupBy : query.grouping.property.any Text.holdsHalf = false := by
    have kept := sound.groupBy
    rw [keeps] at kept
    exact kept
  have toQuery := toQuery_ofQuery keeps parsed
  cases read : parseFilters (filtersValue query.filters) with
  | error failure =>
    rw [read] at toQuery
    constructor
    · rintro ⟨answer, answered, -⟩
      obtain ⟨_, found, -⟩ := bind_eq_ok.mp answered
      rw [toQuery] at found
      cases found
    · rintro ⟨⟨_, found⟩, -⟩
      rw [toQuery] at found
      cases found
  | ok again =>
    rw [read] at toQuery
    obtain ⟨answer, answered, whole⟩ := holdsHalf_rowAnswer_iff keeps parsed groupBy read
    constructor
    · rintro ⟨other, answeredOther, writable⟩
      obtain rfl := Except.ok.inj (answered.symm.trans answeredOther)
      exact ⟨⟨_, toQuery⟩, whole.mp writable⟩
    · rintro ⟨-, ordinary⟩
      exact ⟨answer, answered, whole.mpr ordinary⟩

end SavedRow

end WorkQuery
