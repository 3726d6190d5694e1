/-
This file says what the filters of the compact form can hold once they are read. A reading that
succeeds has gone through one of the branches of `Holds`, one for each way in which a property and
an operator type their values (`holds_of_typedWords`), and the operator stands in a fixed relation
to the placeholder for the requester (`isRead_of_parseMember`). What is proved of filters that were
read is proved from these.
-/

import WorkQuery.CompactForm.Filters
import WorkQuery.Proofs.OperatorCode
import WorkQuery.Proofs.Outcome
import WorkQuery.Proofs.WholeNumber
import WorkQuery.Proofs.WrittenValue

namespace WorkQuery.CompactForm

open Calendar Json Number Schema Text

/-! ### Values -/

/-- Whether the placeholder stands for the requester under a property and an operator. -/
def IsPersonal (property : String) (operator : Operator) : Prop :=
  PropertyClass.of property = .identifier ∨ operator = .fixed .currentUserEquals

/-- What words can be read as under a property and an operator other than a range. -/
inductive HoldsWords (property : String) (operator : Operator) : List String → FilterValue → Prop
  | absent (noDays : operator.days? = none) : HoldsWords property operator [] .absent
  | count {days : Int} {number : Binary64} (counts : operator.days? = some days)
    (rounded : Binary64.ofInt? days = some number) :
    HoldsWords property operator [] (.number number)
  | placeholder (personal : IsPersonal property operator) :
    HoldsWords property operator [placeholder] .currentUser
  | identifiers {words : List String} {ids : List Int}
    (isClass : PropertyClass.of property = .identifier) (nonempty : words ≠ [])
    (single : operator.isRelative → words.length ≤ 1) (read : words.mapM readInteger = .ok ids) :
    HoldsWords property operator words (.ofIds ids)
  | texts {words : List String} (isClass : effectiveClass property operator = .free)
    (nonempty : words ≠ [])
    (impersonal : ¬(words.contains placeholder ∧ IsPersonal property operator)) :
    HoldsWords property operator words (.ofTexts words)
  | truth {words : List String} (isClass : effectiveClass property operator = .truth)
    (nonempty : words ≠ []) (value : Bool) : HoldsWords property operator words (.truth value)
  | day {words : List String} (isClass : effectiveClass property operator = .day)
    (nonempty : words ≠ []) (date : Date) : HoldsWords property operator words (.date date)
  | number {words : List String} {number : Binary64}
    (isClass : effectiveClass property operator = .number) (nonempty : words ≠ [])
    (normal : number.IsNormal) : HoldsWords property operator words (.number number)

/-- The values that can be read under a property and an operator. -/
inductive Holds (property : String) (operator : Operator) : FilterValue → Prop
  | range (isRange : operator = .fixed .between) (first last : Date) :
    Holds property operator (.dates first last)
  | words (noRange : operator ≠ .fixed .between) {words : List String} {value : FilterValue}
    (holds : HoldsWords property operator words value) : Holds property operator value

theorem holds_defaultValue {property : String} {operator : Operator} {value : FilterValue}
    (read : defaultValue operator = .ok value) : HoldsWords property operator [] value := by
  unfold defaultValue at read
  split at read
  · rename_i days counts
    split at read
    · rename_i number rounded
      exact Except.ok.inj read ▸ .count counts rounded
    · cases read
  · rename_i noDays
    exact Except.ok.inj read ▸ .absent noDays

theorem effectiveClass_of_identifier {property : String} {operator : Operator} :
    effectiveClass property operator = .identifier ↔ PropertyClass.of property = .identifier := by
  unfold effectiveClass
  split
  · simp_all
  · simp_all
  · split <;> simp_all

/-- What is read of identifiers. -/
theorem mapM_readInteger {written : List String} {ids : List Int}
    (read : written.mapM readInteger = .ok ids) :
    ids.length = written.length ∧ ∀ id ∈ ids, id.natAbs < 10 ^ digitLimit := by
  induction written generalizing ids with
  | nil =>
    obtain rfl : [] = ids := Except.ok.inj read
    exact ⟨rfl, nofun⟩
  | cons word written inductionHypothesis =>
    rw [List.mapM_cons] at read
    obtain ⟨id, readFirst, read⟩ := bind_eq_ok.mp read
    obtain ⟨others, readOthers, same⟩ := bind_eq_ok.mp read
    obtain rfl : id :: others = ids := Except.ok.inj same
    obtain ⟨count, short⟩ := inductionHypothesis readOthers
    refine ⟨?_, List.forall_mem_cons.mpr ⟨natAbs_lt_of_readInteger readFirst, short⟩⟩
    rw [List.length_cons, List.length_cons, count]

theorem holds_identifierValue {property : String} {operator : Operator} {words : List String}
    {value : FilterValue} (isClass : PropertyClass.of property = .identifier)
    (nonempty : words ≠ []) (single : operator.isRelative → words.length ≤ 1)
    (read : identifierValue property words = .ok value) :
    HoldsWords property operator words value := by
  unfold identifierValue at read
  split at read
  · rename_i ids found
    exact Except.ok.inj read ▸ .identifiers isClass nonempty single found
  · cases read

/-- What is read of a single word, where one is expected. -/
theorem holds_singleValue {property word : String} {rest : List String} {operator : Operator}
    {value : FilterValue} {effective : PropertyClass}
    (isClass : effectiveClass property operator = effective) (notFree : effective ≠ .free)
    (notIdentifier : effective ≠ .identifier)
    (read : singleValue property word effective = .ok value) :
    HoldsWords property operator (word :: rest) value := by
  have nonempty : word :: rest ≠ [] := List.cons_ne_nil _ _
  unfold singleValue at read
  split at read
  · dsimp only at read
    split at read
    · exact Except.ok.inj read ▸ .truth isClass nonempty true
    · split at read
      · exact Except.ok.inj read ▸ .truth isClass nonempty false
      · cases read
  · obtain ⟨date, -, rfl⟩ := map_eq_ok.mp read
    exact .day isClass nonempty date
  · rename_i notTruth notDay
    have isNumber : effective = .number := by
      cases effective <;> simp_all
    split at read
    · rename_i number found
      exact Except.ok.inj read ▸
        .number (isClass.trans isNumber) nonempty (Binary64.isNormal_readNumber? found)
    · cases read

/-- What words are read as under a property and an operator. -/
theorem holds_of_typedWords {property : String} {operator : Operator} {words : List String}
    {value : FilterValue} (read : typedWords property operator words = .ok value) :
    HoldsWords property operator words value := by
  cases words with
  | nil => exact holds_defaultValue read
  | cons word rest =>
    unfold typedWords at read
    dsimp only at read
    rw [if_neg (by simp)] at read
    split at read
    · rename_i named
      split at read
      · cases read
      · rename_i single
        obtain rfl : rest = [] := by
          rw [List.length_cons] at single
          exact List.length_eq_zero_iff.mp (by omega)
        have isPlaceholder : placeholder = word := by simpa using named.1
        exact isPlaceholder ▸ Except.ok.inj read ▸ .placeholder named.2
    · rename_i unnamed
      split at read
      · cases read
      · rename_i single
        cases isClass : effectiveClass property operator with
        | identifier =>
          rw [isClass] at read
          refine holds_identifierValue (effectiveClass_of_identifier.mp isClass)
            (List.cons_ne_nil _ _) (fun relative => ?_) read
          exact not_lt.mp fun several => single ⟨.inr relative, several⟩
        | free =>
          rw [isClass] at read
          exact Except.ok.inj read ▸ .texts isClass (List.cons_ne_nil _ _) unnamed
        | truth | day | number =>
          rw [isClass] at read
          exact holds_singleValue isClass nofun nofun read

theorem ofIds_ne_currentUser (ids : List Int) : FilterValue.ofIds ids ≠ .currentUser := by
  unfold FilterValue.ofIds
  split <;> exact nofun

theorem ofTexts_ne_currentUser (words : List String) :
    FilterValue.ofTexts words ≠ .currentUser := by
  unfold FilterValue.ofTexts
  split <;> exact nofun

theorem ofIds_ne_number (ids : List Int) (number : Binary64) :
    FilterValue.ofIds ids ≠ .number number := by
  unfold FilterValue.ofIds
  split <;> exact nofun

theorem ofTexts_ne_number (words : List String) (number : Binary64) :
    FilterValue.ofTexts words ≠ .number number := by
  unfold FilterValue.ofTexts
  split <;> exact nofun

theorem effectiveClass_ne_number {property : String} {operator : Operator}
    (other : PropertyClass.of property = .identifier ∨ PropertyClass.of property = .truth) :
    effectiveClass property operator ≠ .number := by
  unfold effectiveClass
  rcases other with isClass | isClass <;> rw [isClass] <;> exact nofun

/-- Where no number is expected, a number is read of nothing only. -/
theorem HoldsWords.eq_nil_of_number {property : String} {operator : Operator} {words : List String}
    {value : FilterValue} {number : Binary64} (holds : HoldsWords property operator words value)
    (isNumber : value = .number number)
    (other : PropertyClass.of property = .identifier ∨ PropertyClass.of property = .truth) :
    words = [] := by
  cases holds with
  | count => rfl
  | number isClass => exact absurd isClass (effectiveClass_ne_number other)
  | identifiers => exact absurd isNumber (ofIds_ne_number _ _)
  | texts => exact absurd isNumber (ofTexts_ne_number _ _)
  | _ => cases isNumber

/-- Only the placeholder is read as the requester, and only where it stands for one. -/
theorem HoldsWords.placeholder_of_currentUser {property : String} {operator : Operator}
    {words : List String} {value : FilterValue} (holds : HoldsWords property operator words value)
    (isUser : value = .currentUser) :
    words.contains CompactForm.placeholder = true ∧ IsPersonal property operator := by
  cases holds with
  | placeholder personal => exact ⟨rfl, personal⟩
  | identifiers => exact absurd isUser (ofIds_ne_currentUser _)
  | texts => exact absurd isUser (ofTexts_ne_currentUser _)
  | _ => cases isUser

theorem typedWords_of_placeholder {property : String} {operator : Operator} {written : List String}
    {value : FilterValue} (named : written.contains placeholder = true)
    (personal : IsPersonal property operator)
    (read : typedWords property operator written = .ok value) : value = .currentUser := by
  have nonempty : written.isEmpty = false := by
    cases written with
    | nil => contradiction
    | cons word rest => rfl
  have settled : written.contains placeholder = true ∧
      (PropertyClass.of property = .identifier ∨ operator = .fixed .currentUserEquals) :=
    ⟨named, personal⟩
  unfold typedWords at read
  dsimp only at read
  rw [nonempty, if_neg Bool.false_ne_true, if_pos settled] at read
  split at read
  · cases read
  · exact (Except.ok.inj read).symm

/-! ### Operators -/

theorem operatorOfCode_eq_some {code : String} {values : List Value} {operator : Operator}
    (found : operatorOfCode code values = .ok (some operator)) :
    ∃ written, Operator.parse written = .ok (some operator) := by
  obtain ⟨operator?, parsed, found⟩ := bind_eq_ok.mp found
  split at found
  · obtain rfl := Option.some.inj (Except.ok.inj found)
    exact ⟨code, mapError_eq_ok.mp parsed⟩
  · split at found
    · obtain ⟨count, -, found⟩ := bind_eq_ok.mp found
      exact ⟨_, mapError_eq_ok.mp found⟩
    · cases found

/-- An operator that is settled is the one that was read, or the placeholder settled it. -/
theorem settledOperator_eq_ok {property : String} {operator settled : Operator}
    {values : List Value} (found : settledOperator property operator values = .ok settled) :
    settled = operator ∧ ¬(operator = .fixed .equals ∧
          (values.map Value.plain).contains placeholder ∧
          PropertyClass.of property = .identifier) ∨
      settled = .fixed .currentUserEquals ∧ (values.map Value.plain).contains placeholder ∧
        PropertyClass.of property = .identifier := by
  unfold settledOperator at found
  split at found
  · obtain ⟨words, written, found⟩ := bind_eq_ok.mp found
    obtain rfl := (mapM_word_eq_ok_iff.mp written).2
    have same := Except.ok.inj found
    split at same
    · rename_i named
      exact .inr ⟨same.symm, named⟩
    · rename_i unnamed
      exact .inl ⟨same.symm, fun all => unnamed all.2⟩
  · rename_i different
    exact .inl ⟨(Except.ok.inj found).symm, fun all => different all.1⟩

/-- The operator that a code stands for, as it is settled by the placeholder among the values. -/
theorem parseOperator_eq_ok {property : String} {code : Value} {values : List Value}
    {operator : Operator} (parsed : parseOperator property code values = .ok operator) :
    (∃ written, Operator.parse written = .ok (some operator)) ∧
        ¬(operator = .fixed .equals ∧ (values.map Value.plain).contains placeholder ∧
          PropertyClass.of property = .identifier) ∨
      operator = .fixed .currentUserEquals ∧ (values.map Value.plain).contains placeholder ∧
        PropertyClass.of property = .identifier := by
  unfold parseOperator at parsed
  split at parsed
  · obtain ⟨operator?, found, parsed⟩ := bind_eq_ok.mp parsed
    split at parsed
    · cases parsed
    · rcases settledOperator_eq_ok parsed with ⟨rfl, unsettled⟩ | settled
      · exact .inl ⟨operatorOfCode_eq_some found, unsettled⟩
      · exact .inr settled
  · cases parsed

/-! ### Filters -/

/-- What is known of a filter that was read. -/
structure IsRead (filter : Filter) : Prop where
  short : ∀ kind days, filter.operator = .relative kind days → days.natAbs < 10 ^ digitLimit
  current : filter.operator = .fixed .currentUserEquals →
    PropertyClass.of filter.property = .identifier ∧ filter.value = .currentUser
  equals : filter.operator = .fixed .equals → filter.value ≠ .currentUser
  holds : Holds filter.property filter.operator filter.value

/-- The words of raw values: nulls are left out. -/
def wordsOf (values : List Value) : List String :=
  (values.filter fun value => !(value == .null)).map Value.plain

theorem contains_placeholder_wordsOf (values : List Value) :
    (wordsOf values).contains placeholder = (values.map Value.plain).contains placeholder := by
  induction values with
  | nil => rfl
  | cons value values inductionHypothesis =>
    rw [wordsOf] at inductionHypothesis ⊢
    rw [List.map_cons, List.contains_cons, ← inductionHypothesis, List.filter_cons]
    cases isNull : value == .null with
    | false =>
      rw [if_pos (by rfl), List.map_cons, List.contains_cons]
    | true =>
      obtain rfl := beq_iff_eq.mp isNull
      rw [if_neg (by decide)]
      rfl

theorem valueOfWords_of_ne {property : String} {operator : Operator} (words : List String)
    (noRange : operator ≠ .fixed .between) :
    valueOfWords property operator words = typedWords property operator words :=
  if_neg noRange

theorem mem_present {given : Value} {values : List Value} (member : given ∈ values)
    (present : given ≠ .null) : given ∈ values.filter fun value => !(value == .null) :=
  List.mem_filter.mpr ⟨member, by simpa using present⟩

theorem typedValue_of_showable {property : String} {operator : Operator} {values : List Value}
    (showable : ∀ value ∈ values, ¬value.IsUnshowable) :
    typedValue property operator values = valueOfWords property operator (wordsOf values) := by
  have written : (values.filter fun value => !(value == .null)).mapM word = .ok (wordsOf values) :=
    mapM_word_eq_ok_iff.mpr
      ⟨fun value member => showable value (List.mem_of_mem_filter member), rfl⟩
  unfold typedValue
  rw [written, ok_bind]

theorem typedValue_of_unvalued {property : String} {operator : Operator} {values : List Value}
    (unvalued : wordsOf values = []) :
    typedValue property operator values = valueOfWords property operator [] := by
  have nothing := List.map_eq_nil_iff.mp unvalued
  unfold typedValue
  rw [nothing]
  rfl

/-- Values that are read can all be shown, and are read by their words. -/
theorem typedValue_eq_ok_iff {property : String} {operator : Operator} {values : List Value}
    {value : FilterValue} :
    typedValue property operator values = .ok value ↔
      (∀ given ∈ values, ¬given.IsUnshowable) ∧
        valueOfWords property operator (wordsOf values) = .ok value := by
  -- A null is left out, and can be shown.
  have present : (∀ given ∈ values.filter fun given => !(given == .null), ¬given.IsUnshowable) ↔
      ∀ given ∈ values, ¬given.IsUnshowable := by
    constructor
    · exact fun showable given member unshowable =>
        showable given (mem_present member unshowable.ne_null) unshowable
    · exact fun showable given member => showable given (List.mem_of_mem_filter member)
  unfold typedValue
  rw [bind_eq_ok]
  simp only [mapM_word_eq_ok_iff, present]
  constructor
  · rintro ⟨words, ⟨showable, rfl⟩, read⟩
    exact ⟨showable, read⟩
  · rintro ⟨showable, read⟩
    exact ⟨_, ⟨showable, rfl⟩, read⟩

theorem holds_of_typedValue {property : String} {operator : Operator} {values : List Value}
    {value : FilterValue} (typed : typedValue property operator values = .ok value) :
    Holds property operator value := by
  have read := (typedValue_eq_ok_iff.mp typed).2
  unfold valueOfWords at read
  split at read
  · rename_i isRange
    split at read
    · obtain ⟨first, -, read⟩ := bind_eq_ok.mp read
      obtain ⟨last, -, read⟩ := bind_eq_ok.mp read
      exact Except.ok.inj read ▸ .range isRange first last
    · cases read
  · rename_i noRange
    exact .words noRange (holds_of_typedWords read)

theorem parseMember_eq_ok {property : String} {body : Value} {filter : Filter}
    (parsed : parseMember property body = .ok filter) :
    filter.property = property ∧
      parseOperator property (body.member "operator") (rawValues body) = .ok filter.operator ∧
      typedValue property filter.operator (rawValues body) = .ok filter.value := by
  unfold parseMember at parsed
  split at parsed
  · obtain ⟨operator, parsedOperator, parsed⟩ := bind_eq_ok.mp parsed
    obtain ⟨value, typed, parsed⟩ := bind_eq_ok.mp parsed
    obtain rfl := Except.ok.inj parsed
    exact ⟨rfl, parsedOperator, typed⟩
  · cases parsed

theorem isRead_of_parseMember {property : String} {body : Value} {filter : Filter}
    (parsed : parseMember property body = .ok filter) : IsRead filter := by
  obtain ⟨property, operator, value⟩ := filter
  obtain ⟨rfl, parsedOperator, typed⟩ := parseMember_eq_ok parsed
  have holds := holds_of_typedValue typed
  have typed := (typedValue_eq_ok_iff.mp typed).2
  unfold valueOfWords at typed
  rcases parseOperator_eq_ok parsedOperator with ⟨⟨written, found⟩, unsettled⟩ | settled
  · refine ⟨?_, ?_, ?_, holds⟩
    · rintro kind days rfl
      exact Operator.natAbs_lt_of_parse found
    · rintro rfl
      exact absurd found (Operator.parse_ne_currentUserEquals written)
    · rintro rfl rfl
      rw [if_neg nofun] at typed
      obtain ⟨named, personal⟩ := (holds_of_typedWords typed).placeholder_of_currentUser rfl
      rw [contains_placeholder_wordsOf] at named
      exact unsettled ⟨rfl, named, personal.resolve_right nofun⟩
  · obtain ⟨rfl, named, isClass⟩ := settled
    rw [← contains_placeholder_wordsOf] at named
    rw [if_neg nofun] at typed
    refine ⟨nofun, fun _ => ⟨isClass, ?_⟩, nofun, holds⟩
    exact typedWords_of_placeholder named (.inl isClass) typed

end WorkQuery.CompactForm
