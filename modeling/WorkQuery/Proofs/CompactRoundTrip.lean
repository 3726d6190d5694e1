/-
This file proves that the compact form reads back what it writes of anything that it once read.
Words carry no types, so the proof follows the reader: the words of a value that was read lead the
reader into the branch that the value came from (`typedWords_again`), and the code of an operator
leads back to the operator (`parseOperator_code`). The one exception is a day count that stands in
for a missing value of a property with identifiers or a truth value: it is written as a number, and
read as an identifier or a truth value.
-/

import WorkQuery.CompactForm.Sorts
import WorkQuery.Proofs.DateText
import WorkQuery.Proofs.TypedFilter

namespace WorkQuery.CompactForm

open Calendar Json Number Schema Text

/-! ### Agreement -/

/-- Values agree if they are the same; numbers agree if they are equal as numbers. -/
def Agrees : FilterValue → FilterValue → Prop
  | .number left, .number right => left.compare? right = some .eq
  | left, right => left = right

/-- Filters agree if they have the same property and operator, and their values agree. -/
structure FiltersAgree (left right : Filter) : Prop where
  property : left.property = right.property
  operator : left.operator = right.operator
  value : Agrees left.value right.value

theorem agrees_refl {value : FilterValue} (proper : value ≠ .number .notANumber) :
    Agrees value value := by
  cases value with
  | number number => exact Binary64.compare?_self fun same => proper (congrArg _ same)
  | _ => rfl

/-- A day count that stands in for a missing value of a property whose values are no numbers. -/
def KeepsCount (filter : Filter) : Prop :=
  (PropertyClass.of filter.property = .identifier ∨ PropertyClass.of filter.property = .truth) ∧
    filter.operator.isRelative = true ∧ ∃ number, filter.value = .number number

/-! ### Words -/

theorem wordsOf_texts (words : List String) : wordsOf (words.map .text) = words := by
  induction words with
  | nil => rfl
  | cons word words inductionHypothesis =>
    rw [wordsOf] at inductionHypothesis ⊢
    rw [List.map_cons, List.filter_cons, if_pos (by rfl), List.map_cons, inductionHypothesis]
    rfl

theorem forall_showable_texts (words : List String) :
    ∀ value ∈ words.map Value.text, ¬value.IsUnshowable :=
  List.forall_mem_map.mpr fun text _ => Value.not_isUnshowable_text text

theorem mapM_word_texts (words : List String) : (words.map Value.text).mapM word = .ok words := by
  refine mapM_word_eq_ok_iff.mpr ⟨forall_showable_texts words, ?_⟩
  rw [List.map_map]
  exact List.map_id _

theorem valueTexts_ofIds (ids : List Int) : valueTexts (.ofIds ids) = ids.map integerText := by
  match ids with
  | [] => rfl
  | [id] => rfl
  | first :: second :: rest => rfl

theorem valueTexts_ofTexts (words : List String) : valueTexts (.ofTexts words) = words := by
  match words with
  | [] => rfl
  | [word] => rfl
  | first :: second :: rest => rfl

theorem integerText_ne_placeholder (value : Int) : integerText value ≠ placeholder := by
  intro same
  have member : 'm' ∈ (integerText value).toList := by
    rw [same]
    decide
  rcases mem_integerText member with hyphen | isDigit
  · exact absurd hyphen (by decide)
  · exact absurd isDigit (by decide)

theorem contains_integerTexts (ids : List Int) :
    (ids.map integerText).contains placeholder = false := by
  rw [List.contains_eq_mem, decide_eq_false_iff_not]
  intro member
  obtain ⟨id, -, same⟩ := List.mem_map.mp member
  exact integerText_ne_placeholder id same

theorem mapM_readInteger_integerText {ids : List Int}
    (short : ∀ id ∈ ids, id.natAbs < 10 ^ digitLimit) :
    (ids.map integerText).mapM readInteger = .ok ids := by
  induction ids with
  | nil => rfl
  | cons id ids inductionHypothesis =>
    rw [List.map_cons, List.mapM_cons, readInteger_integerText (short id List.mem_cons_self),
      inductionHypothesis fun other member => short other (List.mem_cons_of_mem _ member)]
    rfl

theorem parseDate_text (date : Date) : parseDate date.text = .ok date := by
  rw [parseDate, Date.read?_text]

theorem singleValue_day (property word : String) :
    singleValue property word .day = (parseDate word).map .date := rfl

/-- A number reads back from its words as an equal number. -/
theorem readNumber?_numberText {number : Binary64} (normal : number.IsNormal) :
    ∃ again, readNumber? (numberText number) = some again ∧
      (number ≠ .notANumber → number.compare? again = some .eq) := by
  unfold numberText
  split
  · rename_i whole found
    obtain ⟨again, read, equal⟩ := Binary64.readNumber?_whole normal found
    exact ⟨again, read, fun _ => equal⟩
  · exact ⟨number, Binary64.readNumber?_text normal, Binary64.compare?_self⟩

/-- A number that is read back from its words is the number itself, or a zero like the number. -/
theorem eq_or_zero_of_readNumber? {number again : Binary64} (normal : number.IsNormal)
    (read : readNumber? (numberText number) = some again) :
    again = number ∨ ∃ left right, number = .zero left ∧ again = .zero right := by
  unfold numberText at read
  split at read
  · rename_i whole found
    rw [Binary64.readNumber?_integerText] at read
    obtain rfl := Option.some.inj read
    cases number with
    | notANumber | infinite => cases found
    | finite negative significand exponent =>
      rcases Nat.eq_zero_or_pos significand with rfl | positive
      · obtain rfl : exponent = Binary64.leastExponent := normal.2.2.2.resolve_left (by norm_num)
        have value := (Binary64.toInt?_finite found).1
        rw [Nat.cast_zero, zero_mul, Nat.cast_eq_zero] at value
        refine .inr ⟨negative, decide (whole < 0), rfl, ?_⟩
        rw [value, Binary64.ofDecimal, if_pos rfl]
      · exact .inl (Binary64.ofDecimal_toInt? normal positive found)
  · rw [Binary64.readNumber?_text normal] at read
    exact .inl (Option.some.inj read).symm

theorem numberText_zero (negative : Bool) : numberText (.zero negative) = "0" := by
  cases negative <;> decide +kernel

/-- A number that is read back from its words has the same words again. -/
theorem numberText_again {number again : Binary64} (normal : number.IsNormal)
    (read : readNumber? (numberText number) = some again) :
    numberText again = numberText number := by
  rcases eq_or_zero_of_readNumber? normal read with rfl | ⟨left, right, rfl, rfl⟩
  · rfl
  · rw [numberText_zero, numberText_zero]

/-! ### Values -/

/-- What a single word is read as where neither identifiers nor texts are expected. -/
theorem typedWords_singleValue {property word : String} {operator : Operator}
    {effective : PropertyClass} (isClass : effectiveClass property operator = effective)
    (notFree : effective ≠ .free) (notIdentifier : effective ≠ .identifier)
    (current : operator ≠ .fixed .currentUserEquals) :
    typedWords property operator [word] = singleValue property word effective := by
  have impersonal : ¬([word].contains placeholder = true ∧
      (PropertyClass.of property = .identifier ∨ operator = .fixed .currentUserEquals)) := by
    rintro ⟨-, isIdentifier | isCurrent⟩
    · exact notIdentifier (isClass.symm.trans (effectiveClass_of_identifier.mpr isIdentifier))
    · exact current isCurrent
  unfold typedWords
  dsimp only
  rw [if_neg (by simp), if_neg impersonal, if_neg (by simp), isClass]
  cases effective <;> first | contradiction | rfl

theorem typedWords_nil (property : String) (operator : Operator) :
    typedWords property operator [] = defaultValue operator := rfl

theorem typedWords_placeholder {property : String} {operator : Operator}
    (personal : IsPersonal property operator) :
    typedWords property operator [placeholder] = .ok .currentUser := by
  have settled : [placeholder].contains placeholder = true ∧
      (PropertyClass.of property = .identifier ∨ operator = .fixed .currentUserEquals) :=
    ⟨rfl, personal⟩
  unfold typedWords
  dsimp only
  rw [if_neg (by simp), if_pos settled, if_neg (by simp)]

theorem effectiveClass_eq_free {property : String} {operator : Operator}
    (isClass : effectiveClass property operator = .free) :
    PropertyClass.of property = .free ∧ operator.isRelative = false := by
  unfold effectiveClass at isClass
  split at isClass
  · cases isClass
  · cases isClass
  · split at isClass
    · cases isClass
    · rename_i notRelative
      exact ⟨isClass, Bool.eq_false_iff.mpr notRelative⟩

theorem effectiveClass_eq_number {property : String} {operator : Operator}
    (notIdentifier : PropertyClass.of property ≠ .identifier)
    (notTruth : PropertyClass.of property ≠ .truth) (relative : operator.isRelative = true) :
    effectiveClass property operator = .number := by
  unfold effectiveClass
  split
  · contradiction
  · contradiction
  · rw [if_pos relative]

theorem isRelative_of_days? {operator : Operator} {days : Int}
    (counts : operator.days? = some days) : operator.isRelative = true := by
  cases operator with
  | fixed kind => cases counts
  | relative kind days => rfl

theorem typedWords_texts {property : String} {operator : Operator} {words : List String}
    (isClass : effectiveClass property operator = .free) (nonempty : words ≠ [])
    (impersonal : ¬(words.contains placeholder ∧ IsPersonal property operator)) :
    typedWords property operator words = .ok (.ofTexts words) := by
  obtain ⟨isFree, notRelative⟩ := effectiveClass_eq_free isClass
  have several : ¬(((PropertyClass.of property ≠ .identifier ∧ PropertyClass.of property ≠ .free) ∨
      operator.isRelative = true) ∧ 1 < words.length) := by
    rintro ⟨⟨-, notFree⟩ | relative, -⟩
    · exact notFree isFree
    · rw [notRelative] at relative
      cases relative
  have present : ¬words.isEmpty = true := fun empty => nonempty (List.isEmpty_iff.mp empty)
  unfold IsPersonal at impersonal
  unfold typedWords
  dsimp only
  rw [if_neg present, if_neg impersonal, if_neg several, isClass]

theorem typedWords_identifiers {property : String} {operator : Operator} {ids : List Int}
    (isClass : PropertyClass.of property = .identifier) (nonempty : ids ≠ [])
    (single : operator.isRelative → ids.length ≤ 1)
    (short : ∀ id ∈ ids, id.natAbs < 10 ^ digitLimit) :
    typedWords property operator (ids.map integerText) = .ok (.ofIds ids) := by
  have several : ¬(((PropertyClass.of property ≠ .identifier ∧ PropertyClass.of property ≠ .free) ∨
      operator.isRelative = true) ∧ 1 < (ids.map integerText).length) := by
    rintro ⟨⟨notIdentifier, -⟩ | relative, several⟩
    · exact notIdentifier isClass
    · rw [List.length_map] at several
      exact absurd (single relative) (not_le.mpr several)
  have present : ¬(ids.map integerText).isEmpty = true := by
    rw [List.isEmpty_map, List.isEmpty_iff]
    exact nonempty
  have impersonal : ¬((ids.map integerText).contains placeholder = true ∧
      (PropertyClass.of property = .identifier ∨ operator = .fixed .currentUserEquals)) := by
    rw [contains_integerTexts]
    exact fun named => Bool.false_ne_true named.1
  unfold typedWords
  dsimp only
  rw [if_neg present, if_neg impersonal, if_neg several, effectiveClass_of_identifier.mpr isClass]
  dsimp only
  rw [identifierValue, mapM_readInteger_integerText short]

theorem typedWords_number {property : String} {operator : Operator} {number : Binary64}
    (isClass : effectiveClass property operator = .number)
    (current : operator ≠ .fixed .currentUserEquals) (normal : number.IsNormal) :
    ∃ again, typedWords property operator [numberText number] = .ok again ∧
      (FilterValue.number number ≠ .number .notANumber → Agrees (.number number) again) := by
  obtain ⟨again, read, equal⟩ := readNumber?_numberText normal
  refine ⟨.number again, ?_, fun proper => equal fun same => proper (congrArg _ same)⟩
  rw [typedWords_singleValue isClass nofun nofun current, singleValue, read]
  · exact nofun
  · exact nofun

/-- The words of a value that was read are read as a value that agrees with it. -/
theorem typedWords_again {property : String} {operator : Operator} {words : List String}
    {value : FilterValue} (holds : HoldsWords property operator words value)
    (current : operator = .fixed .currentUserEquals → value = .currentUser)
    (ordinary : ¬KeepsCount ⟨property, operator, value⟩) :
    ∃ again, typedWords property operator (valueTexts value) = .ok again ∧
      (value ≠ .number .notANumber → Agrees value again) := by
  cases holds with
  | absent noDays =>
    refine ⟨.absent, ?_, fun _ => rfl⟩
    rw [valueTexts, FilterValue.toTexts, typedWords_nil, defaultValue, noDays]
    all_goals exact nofun
  | @count days number counts rounded =>
    have relative := isRelative_of_days? counts
    refine typedWords_number (effectiveClass_eq_number (fun isClass => ?_) (fun isClass => ?_)
      relative) (fun same => ?_) (Binary64.isNormal_ofInt? rounded)
    · exact ordinary ⟨.inl isClass, relative, number, rfl⟩
    · exact ordinary ⟨.inr isClass, relative, number, rfl⟩
    · cases current same
  | placeholder personal => exact ⟨.currentUser, typedWords_placeholder personal, fun _ => rfl⟩
  | @identifiers words ids isClass nonempty single read =>
    obtain ⟨count, short⟩ := mapM_readInteger read
    refine ⟨.ofIds ids, ?_, agrees_refl⟩
    rw [valueTexts_ofIds]
    refine typedWords_identifiers isClass ?_ (fun relative => ?_) short
    · rintro rfl
      exact nonempty (List.length_eq_zero_iff.mp count.symm)
    · rw [count]
      exact single relative
  | texts isClass nonempty impersonal =>
    refine ⟨_, ?_, agrees_refl⟩
    rw [valueTexts_ofTexts]
    exact typedWords_texts isClass nonempty impersonal
  | truth isClass nonempty truth =>
    refine ⟨.truth truth, ?_, fun _ => rfl⟩
    rw [valueTexts, typedWords_singleValue isClass nofun nofun fun same => nomatch current same]
    cases truth <;> rfl
  | day isClass nonempty date =>
    refine ⟨.date date, ?_, fun _ => rfl⟩
    rw [valueTexts, typedWords_singleValue isClass nofun nofun fun same => nomatch current same]
    rw [singleValue_day, parseDate_text]
    rfl
  | number isClass nonempty normal =>
    exact typedWords_number isClass (fun same => nomatch current same) normal

theorem typedValue_words (property : String) (operator : Operator) (words : List String) :
    typedValue property operator (words.map .text) = valueOfWords property operator words := by
  rw [typedValue_of_showable (forall_showable_texts words), wordsOf_texts]

theorem typedValue_texts {property : String} {operator : Operator} (words : List String)
    (noRange : operator ≠ .fixed .between) :
    typedValue property operator (words.map .text) = typedWords property operator words := by
  rw [typedValue_words, valueOfWords_of_ne words noRange]

theorem typedValue_dates (property : String) (first last : Date) :
    typedValue property (.fixed .between) ([first.text, last.text].map .text) =
      .ok (.dates first last) := by
  rw [typedValue_words]
  change (do
    let first ← parseDate first.text
    let last ← parseDate last.text
    return FilterValue.dates first last) = _
  rw [parseDate_text, parseDate_text]
  rfl

/-- The written value of a filter that was read is read as a value that agrees with it. -/
theorem typedValue_again {filter : Filter} (read : IsRead filter) (ordinary : ¬KeepsCount filter) :
    ∃ again, typedValue filter.property filter.operator ((valueTexts filter.value).map .text) =
        .ok again ∧ (filter.value ≠ .number .notANumber → Agrees filter.value again) := by
  obtain ⟨property, operator, value⟩ := filter
  obtain ⟨-, current, -, holds⟩ := read
  cases holds with
  | range isRange first last =>
    obtain rfl := isRange
    exact ⟨.dates first last, typedValue_dates property first last, fun _ => rfl⟩
  | words noRange holds =>
    obtain ⟨again, typed, agrees⟩ :=
      typedWords_again holds (fun same => (current same).2) ordinary
    refine ⟨again, ?_, agrees⟩
    rw [typedValue_texts _ noRange]
    exact typed

theorem eq_of_agrees {left right : FilterValue} (agrees : Agrees left right)
    (noNumber : ∀ number, left ≠ .number number) : left = right := by
  cases left with
  | number number => exact absurd rfl (noNumber number)
  | _ => exact agrees

/-- A number was expected to be one, unless it stands in for a missing value of another class. -/
theorem isNumber_of_holds {property : String} {operator : Operator} {value : FilterValue}
    {number : Binary64} (holds : Holds property operator value) (isNumber : value = .number number)
    (ordinary : ¬KeepsCount ⟨property, operator, value⟩) :
    effectiveClass property operator = .number ∧ number.IsNormal ∧
      operator ≠ .fixed .between := by
  cases holds with
  | range => cases isNumber
  | words noRange holds =>
    cases holds with
    | number isClass nonempty normal =>
      obtain rfl := FilterValue.number.inj isNumber
      exact ⟨isClass, normal, noRange⟩
    | count counts rounded =>
      obtain rfl := FilterValue.number.inj isNumber
      have relative := isRelative_of_days? counts
      refine ⟨effectiveClass_eq_number (fun isClass => ?_) (fun isClass => ?_) relative,
        Binary64.isNormal_ofInt? rounded, noRange⟩
      · exact ordinary ⟨.inl isClass, relative, _, rfl⟩
      · exact ordinary ⟨.inr isClass, relative, _, rfl⟩
    | identifiers => exact absurd isNumber (ofIds_ne_number _ _)
    | texts => exact absurd isNumber (ofTexts_ne_number _ _)
    | _ => cases isNumber

/-- A number is read back as the number that its words are read as. -/
theorem exists_number_of_typedValue {filter : Filter} {number : Binary64} {again : FilterValue}
    (read : IsRead filter) (ordinary : ¬KeepsCount filter)
    (isNumber : filter.value = .number number)
    (typed : typedValue filter.property filter.operator ((valueTexts filter.value).map .text) =
      .ok again) :
    ∃ other, again = .number other ∧ number.IsNormal ∧
      readNumber? (numberText number) = some other := by
  obtain ⟨property, operator, value⟩ := filter
  obtain rfl : value = .number number := isNumber
  obtain ⟨isClass, normal, noRange⟩ := isNumber_of_holds read.holds rfl ordinary
  have current : operator ≠ .fixed .currentUserEquals := fun same => nomatch (read.current same).2
  rw [typedValue_texts _ noRange, valueTexts,
    typedWords_singleValue isClass (by decide) (by decide) current] at typed
  unfold singleValue at typed
  dsimp only at typed
  split at typed
  · rename_i other readAgain
    exact ⟨other, (Except.ok.inj typed).symm, normal, readAgain⟩
  · cases typed

/-- A value that is no number is read back as it was. -/
theorem eq_of_typedValue {filter : Filter} {again : FilterValue} (read : IsRead filter)
    (ordinary : ¬KeepsCount filter) (noNumber : ∀ number, filter.value ≠ .number number)
    (typed : typedValue filter.property filter.operator ((valueTexts filter.value).map .text) =
      .ok again) : again = filter.value := by
  obtain ⟨other, typedOther, agrees⟩ := typedValue_again read ordinary
  obtain rfl := Except.ok.inj (typedOther.symm.trans typed)
  exact (eq_of_agrees (agrees (noNumber _)) noNumber).symm

/-! ### Operators -/

theorem operatorOfCode_of_parse {code : String} {values : List Value} {operator : Operator}
    (parsed : Operator.parse code = .ok (some operator)) :
    operatorOfCode code values = .ok (some operator) := by
  unfold operatorOfCode
  rw [mapError_eq_ok.mpr parsed]
  rfl

theorem parseOperator_of_parse {property code : String} {words : List String} {operator : Operator}
    (parsed : Operator.parse code = .ok (some operator)) :
    parseOperator property (.text code) (words.map .text) =
      if operator = .fixed .equals ∧ words.contains placeholder ∧
          PropertyClass.of property = .identifier then
        .ok (.fixed .currentUserEquals)
      else .ok operator := by
  unfold parseOperator settledOperator
  dsimp only
  rw [operatorOfCode_of_parse parsed, ok_bind]
  dsimp only
  rw [mapM_word_texts, ok_bind]
  split
  · rename_i isEquals
    simp only [isEquals, true_and]
    split <;> rfl
  · rename_i different
    rw [if_neg fun all => different all.1]

/-- Of the values of a property with identifiers, only the requester is written as the
placeholder. -/
theorem Holds.contains_placeholder {property : String} {operator : Operator} {value : FilterValue}
    (holds : Holds property operator value) (isClass : PropertyClass.of property = .identifier)
    (isEquals : operator = .fixed .equals) (notUser : value ≠ .currentUser) :
    (valueTexts value).contains placeholder = false := by
  have effective : effectiveClass property operator = .identifier :=
    effectiveClass_of_identifier.mpr isClass
  cases holds with
  | range isRange =>
    rw [isEquals] at isRange
    cases isRange
  | words _ holds =>
    cases holds with
    | absent => rfl
    | count counts =>
      rw [isEquals] at counts
      cases counts
    | placeholder => contradiction
    | identifiers =>
      rw [valueTexts_ofIds]
      exact contains_integerTexts _
    | texts isOther | truth isOther | day isOther | number isOther =>
      rw [effective] at isOther
      cases isOther

theorem canonical_of_ne {kind : FixedKind} (different : kind ≠ .currentUserEquals) :
    kind.canonical = kind := by
  cases kind <;> first | rfl | contradiction

/-- The code of the operator of a filter that was read leads back to that operator. -/
theorem parseOperator_code {filter : Filter} (read : IsRead filter) :
    parseOperator filter.property (.text filter.operator.code)
      ((valueTexts filter.value).map .text) = .ok filter.operator := by
  obtain ⟨property, operator, value⟩ := filter
  obtain ⟨short, current, equals, holds⟩ := read
  cases operator with
  | relative kind days =>
    rw [parseOperator_of_parse (Operator.parse_relative kind (short kind days rfl))]
    exact if_neg nofun
  | fixed kind =>
    rw [parseOperator_of_parse (Operator.parse_fixed kind)]
    by_cases isCurrent : kind = .currentUserEquals
    · obtain rfl := isCurrent
      obtain ⟨isClass, rfl⟩ := current rfl
      exact if_pos ⟨rfl, rfl, isClass⟩
    · rw [canonical_of_ne isCurrent]
      refine if_neg ?_
      rintro ⟨isEquals, named, isClass⟩
      rw [holds.contains_placeholder isClass isEquals (equals isEquals)] at named
      cases named

/-! ### Filters -/

/-- The body of a filter in the compact form. -/
def memberBody (filter : Filter) : Value :=
  .object [("operator", .text filter.operator.code), ("values", .texts (valueTexts filter.value))]

/-- A filter that was read is read back from what is written of it as soon as its value is. -/
theorem parseMember_memberBody {filter : Filter} (read : IsRead filter) :
    parseMember filter.property (memberBody filter) =
      (typedValue filter.property filter.operator ((valueTexts filter.value).map .text)).map
        fun value => ⟨filter.property, filter.operator, value⟩ := by
  change (parseOperator filter.property (.text filter.operator.code)
    ((valueTexts filter.value).map .text) >>= fun operator =>
      typedValue filter.property operator ((valueTexts filter.value).map .text) >>= fun value =>
        (.ok (Filter.mk filter.property operator value) : Except Failure Filter)) = _
  rw [parseOperator_code read, ok_bind]
  cases typedValue filter.property filter.operator ((valueTexts filter.value).map .text) <;> rfl

/-- What is written of a filter that was read is read as a filter that agrees with it. -/
theorem parseMember_again {filter : Filter} (read : IsRead filter) (ordinary : ¬KeepsCount filter) :
    ∃ again, parseMember filter.property (memberBody filter) = .ok again ∧
      (filter.value ≠ .number .notANumber → FiltersAgree filter again) := by
  obtain ⟨value, typed, agrees⟩ := typedValue_again read ordinary
  refine ⟨⟨filter.property, filter.operator, value⟩, ?_, fun proper => ⟨rfl, rfl, agrees proper⟩⟩
  rw [parseMember_memberBody read, typed]
  rfl

theorem parseEntry_singleton (property : String) (body : Value) :
    parseEntry (.object [(property, body)]) = (parseMember property body).map ([·]) := by
  change [(property, body)].mapM (fun member => parseMember member.1 member.2) = _
  rw [List.mapM_cons, List.mapM_nil]
  cases parseMember property body <;> rfl

theorem parseEntry_filterValue (filter : Filter) :
    parseEntry (filterValue filter) =
      (parseMember filter.property (memberBody filter)).map ([·]) :=
  parseEntry_singleton filter.property (memberBody filter)

theorem mapM_parseEntry (filters : List Filter) :
    ((filters.map filterValue).mapM parseEntry).map List.flatten =
      filters.mapM fun filter => parseMember filter.property (memberBody filter) := by
  induction filters with
  | nil => rfl
  | cons filter filters inductionHypothesis =>
    rw [List.map_cons, List.mapM_cons, List.mapM_cons, parseEntry_filterValue,
      ← inductionHypothesis]
    cases parseMember filter.property (memberBody filter) with
    | error failure => rfl
    | ok again => cases (filters.map filterValue).mapM parseEntry <;> rfl

/-- What is written of filters is read one filter after the other. -/
theorem parseFilters_filtersValue (filters : FilterSet) :
    parseFilters (filtersValue filters) =
      (filters.filters.mapM fun filter => parseMember filter.property (memberBody filter)).map
        FilterSet.mk := by
  rw [← mapM_parseEntry]
  change ((filters.filters.map filterValue).mapM parseEntry >>= fun again =>
    .ok (FilterSet.mk again.flatten)) = _
  cases (filters.filters.map filterValue).mapM parseEntry <;> rfl

/-- What is the same of each filter and of what is read of the written filter is the same of all
filters. -/
theorem map_of_parseFilters {Content : Type} {view : Filter → Content} {filters again : FilterSet}
    (same : ∀ filter ∈ filters.filters, ∀ other,
      parseMember filter.property (memberBody filter) = .ok other → view other = view filter)
    (parsed : parseFilters (filtersValue filters) = .ok again) :
    again.filters.map view = filters.filters.map view := by
  rw [parseFilters_filtersValue] at parsed
  obtain ⟨others, found, rfl⟩ := map_eq_ok.mp parsed
  have related := forall₂_mapM found
  clear parsed found
  generalize filters.filters = given at same related ⊢
  dsimp only
  induction related with
  | nil => rfl
  | cons first _ inductionHypothesis =>
    rw [List.forall_mem_cons] at same
    rw [List.map_cons, List.map_cons, same.1 _ first, inductionHypothesis same.2]

/-! ### What was given -/

/-- The members of a compact form: a property and a body for each filter, in order. -/
def givenMembers (raw : Value) : List (String × Value) :=
  match entries "filters" raw with
  | .ok items => items.flatMap fun
    | .object fields => fields
    | _ => []
  | .error _ => []

/-- A member of a property with identifiers or a truth value that compares with a day relative to
today and is given no value: its values are left out or count as nothing, or all of them are
null. -/
def DefaultsToCount (member : String × Value) : Prop :=
  (PropertyClass.of member.1 = .identifier ∨ PropertyClass.of member.1 = .truth) ∧
    wordsOf (rawValues member.2) = [] ∧
    ∃ kind days, parseOperator member.1 (member.2.member "operator") (rawValues member.2) =
      .ok (.relative kind days)

theorem forall₂_parseEntries {items : List Value} {filters : List (List Filter)}
    (parsed : items.mapM parseEntry = .ok filters) :
    List.Forall₂ (fun member filter => parseMember member.1 member.2 = .ok filter)
      (items.flatMap fun
        | .object fields => fields
        | _ => []) filters.flatten := by
  have related := forall₂_mapM parsed
  clear parsed
  induction related with
  | nil => exact .nil
  | @cons item _ items _ first _ inductionHypothesis =>
    rw [List.flatMap_cons, List.flatten_cons]
    refine List.rel_append ?_ inductionHypothesis
    unfold parseEntry at first
    split at first
    · exact forall₂_mapM first
    · cases first

/-- The filters of a compact form are the readings of its members, in order. -/
theorem forall₂_givenMembers {raw : Value} {filters : FilterSet}
    (parsed : parseFilters raw = .ok filters) :
    List.Forall₂ (fun member filter => parseMember member.1 member.2 = .ok filter)
      (givenMembers raw) filters.filters := by
  obtain ⟨items, given, read⟩ := bind_eq_ok.mp parsed
  obtain ⟨found, readItems, same⟩ := bind_eq_ok.mp read
  obtain rfl := Except.ok.inj same
  rw [givenMembers, given]
  exact forall₂_parseEntries readItems

theorem defaultsToCount_of_keepsCount {member : String × Value} {filter : Filter}
    (parsed : parseMember member.1 member.2 = .ok filter) (keeps : KeepsCount filter) :
    DefaultsToCount member := by
  obtain ⟨property, operator, value⟩ := filter
  obtain ⟨rfl, parsedOperator, typed⟩ := parseMember_eq_ok parsed
  obtain ⟨other, relative, number, rfl⟩ := keeps
  cases operator with
  | fixed kind => cases relative
  | relative kind days =>
    have read := (typedValue_eq_ok_iff.mp typed).2
    rw [@valueOfWords_of_ne _ (.relative kind days) _ nofun] at read
    exact ⟨other, (holds_of_typedWords read).eq_nil_of_number rfl other, kind, days,
      parsedOperator⟩

theorem keepsCount_of_defaultsToCount {member : String × Value} {filter : Filter}
    (parsed : parseMember member.1 member.2 = .ok filter) (defaults : DefaultsToCount member) :
    KeepsCount filter := by
  obtain ⟨property, operator, value⟩ := filter
  obtain ⟨rfl, parsedOperator, typed⟩ := parseMember_eq_ok parsed
  obtain ⟨other, unvalued, kind, days, relative⟩ := defaults
  obtain rfl := Except.ok.inj (parsedOperator.symm.trans relative)
  have counted := (typedValue_eq_ok_iff.mp typed).2
  rw [unvalued, @valueOfWords_of_ne _ (.relative kind days) _ nofun, typedWords_nil, defaultValue,
    Operator.days?] at counted
  dsimp only at counted
  split at counted
  · exact ⟨other, rfl, _, (Except.ok.inj counted).symm⟩
  · cases counted

/-- Where a day count stands in for a value of another kind, what is written of it is read as a
value of that kind, if at all. -/
theorem not_agree_of_keepsCount {filter other : Filter} (keeps : KeepsCount filter)
    (parsed : parseMember filter.property (memberBody filter) = .ok other) :
    ¬FiltersAgree filter other := by
  obtain ⟨property, operator, value⟩ := other
  obtain ⟨rfl, parsedOperator, typed⟩ := parseMember_eq_ok parsed
  obtain ⟨notNumber, relative, number, isNumber⟩ := keeps
  rintro ⟨-, rfl, agrees⟩
  have words : wordsOf (rawValues (memberBody filter)) = [numberText number] := by
    change wordsOf ((valueTexts filter.value).map .text) = _
    rw [wordsOf_texts, isNumber]
    rfl
  have noRange : filter.operator ≠ .fixed .between := by
    intro isRange
    rw [isRange] at relative
    cases relative
  have read := (typedValue_eq_ok_iff.mp typed).2
  rw [words, valueOfWords_of_ne _ noRange] at read
  obtain ⟨again, rfl⟩ : ∃ again, value = .number again := by
    rw [isNumber] at agrees
    cases value with
    | number again => exact ⟨again, rfl⟩
    | _ => cases agrees
  exact absurd ((holds_of_typedWords read).eq_nil_of_number rfl notNumber) (List.cons_ne_nil _ _)

/-! ### Sort orders -/

theorem decimalText_ne_empty (scientificFrom : Int) (keepPoint : Bool) (decimal : Decimal) :
    Binary64.decimalText scientificFrom keepPoint decimal ≠ "" := by
  intro empty
  have characters := congrArg String.toList empty
  unfold Binary64.decimalText at characters
  dsimp only at characters
  split at characters
  · split at characters
    · simp at characters
    · split at characters <;> simp at characters
  · simp at characters

theorem text_ne_empty (number : Binary64) : number.text ≠ "" := by
  cases number with
  | notANumber => decide
  | infinite negative => cases negative <;> decide
  | finite negative significand exponent =>
    unfold Binary64.text
    dsimp only
    split
    · exact fun empty => absurd (String.append_eq_empty_iff.mp empty).1 (by decide)
    · split
      · decide
      · exact decimalText_ne_empty 16 false _

/-- Whatever does not count as nothing has a text. -/
theorem plain_ne_empty {value : Value} (something : value.isVoid = false) : value.plain ≠ "" := by
  cases value with
  | null => cases something
  | bool truth => cases truth <;> decide
  | int number => exact integerText_ne_empty number
  | real number => exact text_ne_empty number
  | text written =>
    rintro rfl
    cases something
  | list items =>
    intro empty
    exact absurd (String.append_eq_empty_iff.mp (String.append_eq_empty_iff.mp empty).1).1
      (by decide)
  | object fields =>
    intro empty
    exact absurd (String.append_eq_empty_iff.mp (String.append_eq_empty_iff.mp empty).1).1
      (by decide)

theorem refusePair_ne_ok {property direction : Value} {criterion : SortCriterion} :
    refusePair property direction ≠ .ok criterion := by
  intro refused
  obtain ⟨shown, -, refused⟩ := bind_eq_ok.mp refused
  cases refused

theorem parse?_name (direction : Direction) : Direction.parse? direction.name = some direction := by
  cases direction <;> decide

theorem parseCriterion_texts {criterion : SortCriterion} (named : criterion.property ≠ "") :
    parseCriterion (.texts [criterion.property, criterion.direction.name]) = .ok criterion := by
  have something : (Value.text criterion.property).isVoid = false := by
    rw [Value.isVoid, String.isEmpty_eq_false_iff]
    exact named
  change criterionOfPair (.text criterion.property) (.text criterion.direction.name) = _
  rw [criterionOfPair, word_text, ok_bind, parse?_name]
  dsimp only
  rw [something, if_neg Bool.false_ne_true, word_text]
  rfl

theorem property_ne_empty_of_parseCriterion {entry : Value} {criterion : SortCriterion}
    (parsed : parseCriterion entry = .ok criterion) : criterion.property ≠ "" := by
  obtain ⟨⟨property, direction⟩, -, parsed⟩ := bind_eq_ok.mp parsed
  obtain ⟨name, -, parsed⟩ := bind_eq_ok.mp parsed
  split at parsed
  · split at parsed
    · exact absurd parsed refusePair_ne_ok
    · rename_i something
      obtain ⟨text, written, same⟩ := bind_eq_ok.mp parsed
      obtain ⟨-, rfl⟩ := word_eq_ok_iff.mp written
      obtain rfl := Except.ok.inj same
      exact plain_ne_empty (Bool.eq_false_iff.mpr something)
  · exact absurd parsed refusePair_ne_ok

theorem named_of_parseSorts {raw : Value} {order : SortOrder}
    (parsed : parseSorts raw = .ok order) :
    ∀ criterion ∈ order.criteria, criterion.property ≠ "" := by
  obtain ⟨items, -, read⟩ := bind_eq_ok.mp parsed
  obtain ⟨criteria, readItems, same⟩ := bind_eq_ok.mp read
  obtain rfl := Except.ok.inj same
  exact forall_mem_of_mapM (fun _ _ => property_ne_empty_of_parseCriterion) readItems

/-- A sort order is read back from what is written of it if its criteria name properties. -/
theorem parseSorts_of_named {order : SortOrder}
    (named : ∀ criterion ∈ order.criteria, criterion.property ≠ "") :
    parseSorts (sortsValue order) = .ok order := by
  have again : (order.criteria.map fun criterion =>
      Value.texts [criterion.property, criterion.direction.name]).mapM parseCriterion =
        .ok order.criteria := by
    refine mapM_of_forall₂ ?_
    rw [List.forall₂_map_left_iff, List.forall₂_same]
    exact fun criterion member => parseCriterion_texts (named criterion member)
  change ((order.criteria.map fun criterion =>
    Value.texts [criterion.property, criterion.direction.name]).mapM parseCriterion >>=
      fun criteria => .ok (SortOrder.mk criteria)) = _
  rw [again]
  rfl

theorem parseSorts_sortsValue {raw : Value} {order : SortOrder}
    (parsed : parseSorts raw = .ok order) : parseSorts (sortsValue order) = .ok order :=
  parseSorts_of_named (named_of_parseSorts parsed)

/-! ### Compact forms -/

theorem exists_again {filters : List Filter} (read : ∀ filter ∈ filters, IsRead filter)
    (ordinary : ∀ filter ∈ filters, ¬KeepsCount filter)
    (proper : ∀ filter ∈ filters, filter.value ≠ .number .notANumber) :
    ∃ again, List.Forall₂ (fun filter other =>
        parseMember filter.property (memberBody filter) = .ok other) filters again ∧
      List.Forall₂ FiltersAgree filters again := by
  induction filters with
  | nil => exact ⟨[], .nil, .nil⟩
  | cons filter filters inductionHypothesis =>
    rw [List.forall_mem_cons] at read ordinary proper
    obtain ⟨other, parsed, agrees⟩ := parseMember_again read.1 ordinary.1
    obtain ⟨others, parsedOthers, agree⟩ := inductionHypothesis read.2 ordinary.2 proper.2
    exact ⟨other :: others, .cons parsed parsedOthers, .cons (agrees proper.1) agree⟩

theorem isRead_of_forall₂ {members : List (String × Value)} {filters : List Filter}
    (related : List.Forall₂ (fun member filter => parseMember member.1 member.2 = .ok filter)
      members filters)
    (given : ∀ member ∈ members, ¬DefaultsToCount member) :
    ∀ filter ∈ filters, IsRead filter ∧ ¬KeepsCount filter := by
  induction related with
  | nil => exact fun _ inside => absurd inside List.not_mem_nil
  | cons parsed _ inductionHypothesis =>
    rw [List.forall_mem_cons] at given ⊢
    refine ⟨⟨isRead_of_parseMember parsed, fun keeps => ?_⟩, inductionHypothesis given.2⟩
    exact given.1 (defaultsToCount_of_keepsCount parsed keeps)

theorem parseFilters_again {raw : Value} {filters : FilterSet}
    (parsed : parseFilters raw = .ok filters)
    (given : ∀ member ∈ givenMembers raw, ¬DefaultsToCount member)
    (proper : ∀ filter ∈ filters.filters, filter.value ≠ .number .notANumber) :
    ∃ again, parseFilters (filtersValue filters) = .ok again ∧
      List.Forall₂ FiltersAgree filters.filters again.filters := by
  have read := isRead_of_forall₂ (forall₂_givenMembers parsed) given
  obtain ⟨again, parsedAgain, agree⟩ := exists_again (fun filter member => (read filter member).1)
    (fun filter member => (read filter member).2) proper
  refine ⟨⟨again⟩, ?_, agree⟩
  rw [parseFilters_filtersValue, mapM_of_forall₂ parsedAgain]
  rfl

/-- Filters are not read back if one of them keeps a day count for a value of another kind. -/
theorem not_defaultsToCount_of_forall₂ {members : List (String × Value)}
    {filters others : List Filter}
    (related : List.Forall₂ (fun member filter => parseMember member.1 member.2 = .ok filter)
      members filters)
    (again : List.Forall₂ (fun filter other =>
      parseMember filter.property (memberBody filter) = .ok other) filters others)
    (agree : List.Forall₂ FiltersAgree filters others) :
    ∀ member ∈ members, ¬DefaultsToCount member := by
  induction related generalizing others with
  | nil => exact List.forall_mem_nil _
  | cons parsed _ inductionHypothesis =>
    cases agree with
    | cons agrees agree =>
      obtain ⟨parsedAgain, again⟩ := List.forall₂_cons.mp again
      refine List.forall_mem_cons.mpr ⟨fun defaults => ?_, inductionHypothesis again agree⟩
      exact not_agree_of_keepsCount (keepsCount_of_defaultsToCount parsed defaults) parsedAgain
        agrees

theorem not_defaultsToCount_of_again {raw : Value} {filters again : FilterSet}
    (parsed : parseFilters raw = .ok filters)
    (parsedAgain : parseFilters (filtersValue filters) = .ok again)
    (agree : List.Forall₂ FiltersAgree filters.filters again.filters) :
    ∀ member ∈ givenMembers raw, ¬DefaultsToCount member := by
  rw [parseFilters_filtersValue] at parsedAgain
  obtain ⟨others, found, rfl⟩ := map_eq_ok.mp parsedAgain
  exact not_defaultsToCount_of_forall₂ (forall₂_givenMembers parsed) (forall₂_mapM found) agree

/-- Whatever compact form of filters is read, if all of their numbers are proper, then what is
written of the filters is read as filters that agree with them, exactly if no day count stands in
for a missing value of a property with identifiers or a truth value. Sort orders are read back as
they are. -/
theorem compactForms_read_back (raw : Value) :
    (∀ filters, parseFilters raw = .ok filters →
      (∀ filter ∈ filters.filters, filter.value ≠ .number .notANumber) →
      ((∃ again, parseFilters (filtersValue filters) = .ok again ∧
          List.Forall₂ FiltersAgree filters.filters again.filters) ↔
        ∀ member ∈ givenMembers raw, ¬DefaultsToCount member)) ∧
    ∀ order, parseSorts raw = .ok order → parseSorts (sortsValue order) = .ok order :=
  ⟨fun _ parsed proper =>
    ⟨fun ⟨_, parsedAgain, agree⟩ => not_defaultsToCount_of_again parsed parsedAgain agree,
      fun given => parseFilters_again parsed given proper⟩,
    fun _ => parseSorts_sortsValue⟩

/-- Filters of several kinds: a text that is searched for, the requester, identifiers given as
numbers and texts, a range of days, a day count that the code of the operator gives, one that is
given as a value, a bare number, and an alias. -/
def mixedEntries : Value :=
  let entry (property code : String) (values : Value) : Value :=
    .object [(property, .object [("operator", .text code), ("values", values)])]
  .list
    [entry "subject" "~" (.list [.text "x"]),
     entry "assigned_to_id" "=" (.list [.text "me"]),
     entry "type_id" "!" (.list [.int 1, .text " 2"]),
     entry "created_at" "<>d" (.list [.text "2023-03-05", .text "2023-04-30"]),
     entry "due_date" "t-5" (.list [.null]),
     entry "version_id" "t+" (.int 3),
     entry "done_ratio" ">=" (.int 50),
     entry "status" "o" .null]

/-- What the filters are read as. -/
def mixedFilters : FilterSet where
  filters :=
    [⟨"subject", .fixed .contains, .text "x"⟩,
     ⟨"assigned_to_id", .fixed .currentUserEquals, .currentUser⟩,
     ⟨"type_id", .fixed .notEquals, .ids [1, 2]⟩,
     ⟨"created_at", .fixed .between, .dates ⟨2023, 3, 5, by decide⟩ ⟨2023, 4, 30, by decide⟩⟩,
     ⟨"due_date", .relative .daysAgo 5, .number (.finite false 5629499534213120 (-50))⟩,
     ⟨"version_id", .relative .daysFromNow 3, .id 3⟩,
     ⟨"done_ratio", .fixed .greaterOrEqual, .number (.finite false 7036874417766400 (-47))⟩,
     ⟨"status", .fixed .isNull, .absent⟩]

/-- Filters of several kinds and an order by two properties. -/
theorem compactForms_read_back_mixed :
    (∃ again, parseFilters (filtersValue mixedFilters) = .ok again ∧
      List.Forall₂ FiltersAgree mixedFilters.filters again.filters) ∧
    parseSorts (sortsValue ⟨[⟨"subject", .descending⟩, ⟨"id", .ascending⟩]⟩) =
      .ok ⟨[⟨"subject", .descending⟩, ⟨"id", .ascending⟩]⟩ := by
  have read : parseFilters mixedEntries = .ok mixedFilters :=
    eq_ok_of_toOption (by decide +kernel)
  refine ⟨((compactForms_read_back mixedEntries).1 mixedFilters read (by decide +kernel)).mpr ?_,
    (compactForms_read_back (.list [.text "subject:desc", .text "id"])).2 _ rfl⟩
  · have given : ∀ member ∈ givenMembers mixedEntries,
        (PropertyClass.of member.1 ≠ .identifier ∧ PropertyClass.of member.1 ≠ .truth) ∨
          wordsOf (rawValues member.2) ≠ [] := by decide +kernel
    rintro member inside ⟨isIdentifier | isTruth, unvalued, -⟩
    · exact (given member inside).elim (·.1 isIdentifier) (· unvalued)
    · exact (given member inside).elim (·.2 isTruth) (· unvalued)

/-- A relative operator on a property with identifiers, given a null as its only value. -/
def nullCount : Value :=
  .list [.object [("status_id", .object [("operator", .text "t-5"), ("values", .list [.null])])]]

/-- It is not enough that a list of values is given: a list of nulls counts as no value too. -/
theorem nullCount_not_read_back :
    ¬∀ raw filters, parseFilters raw = .ok filters →
      (∀ member ∈ givenMembers raw, ¬((PropertyClass.of member.1 = .identifier ∨
        PropertyClass.of member.1 = .truth) ∧ rawValues member.2 = [] ∧
        ∃ kind days, parseOperator member.1 (member.2.member "operator") (rawValues member.2) =
          .ok (.relative kind days))) →
      (∀ filter ∈ filters.filters, filter.value ≠ .number .notANumber) →
      ∃ again, parseFilters (filtersValue filters) = .ok again ∧
        List.Forall₂ FiltersAgree filters.filters again.filters := by
  intro all
  obtain ⟨again, parsed, agree⟩ := all nullCount
    ⟨[⟨"status_id", .relative .daysAgo 5, .number (.finite false 5629499534213120 (-50))⟩]⟩
    (eq_ok_of_toOption (by decide +kernel))
    (fun member inside => by
      obtain rfl := List.mem_singleton.mp inside
      rintro ⟨-, empty, -⟩
      cases empty)
    (fun filter inside => by
      obtain rfl := List.mem_singleton.mp inside
      exact nofun)
  have identified := eq_ok_of_toOption (show (parseFilters (filtersValue ⟨[⟨"status_id",
    .relative .daysAgo 5, .number (.finite false 5629499534213120 (-50))⟩]⟩)).toOption =
      some ⟨[⟨"status_id", .relative .daysAgo 5, .id 5⟩]⟩ by decide +kernel)
  obtain rfl := Except.ok.inj (identified.symm.trans parsed)
  cases agree with
  | cons first _ => cases first.value

end WorkQuery.CompactForm
