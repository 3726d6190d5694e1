/-
This file says when a filter that is given a bare value is read like one that is given a list with
that value alone. Of the bare values, a zero, false, an empty text and an object without members
count as nothing, so that the filter is read as if it had no value; in a list they are values like
any others. The two spellings then have the same outcome only where values make no difference: the
code stands for no operator, the operator needs two values, or the value is a zero and the day count
that stands in for it is zero too (`bareValue_sameOutcome_iff`).
-/

import WorkQuery.Proofs.CompactFailure
import WorkQuery.Proofs.StoredCondition

namespace WorkQuery.Number.Binary64

/-! ### Zeros -/

theorem text_of_isZero {number : Binary64} (isZero : number.isZero = true) :
    number.text = "0.0" ∨ number.text = "-0.0" := by
  cases number with
  | notANumber | infinite => cases isZero
  | finite negative significand exponent =>
    obtain rfl : significand = 0 := beq_iff_eq.mp isZero
    cases negative
    · exact .inl rfl
    · exact .inr rfl

end WorkQuery.Number.Binary64

namespace WorkQuery.CompactForm

open Json Number

/-! ### Outcomes -/

/-- Outcomes are the same: one result, or two that agree, or one failure, or two parse errors. -/
def SameOutcome {Content : Type} (agree : Content → Content → Prop) :
    Except Failure Content → Except Failure Content → Prop
  | .ok left, .ok right => left = right ∨ agree left right
  | .error left, .error right => left = right ∨ left.IsParse ∧ right.IsParse
  | _, _ => False

section Outcomes

variable {Content Result : Type} {agree : Content → Content → Prop}

theorem sameOutcome_refl (outcome : Except Failure Content) :
    SameOutcome agree outcome outcome := by
  cases outcome <;> exact .inl rfl

/-- Outcomes that are worked on alike, without confusing results, stay as different as they were. -/
theorem sameOutcome_map {left right : Except Failure Content} {function : Content → Result}
    {agree : Result → Result → Prop} (injective : Function.Injective function) :
    SameOutcome agree (left.map function) (right.map function) ↔
      SameOutcome (fun first second => agree (function first) (function second)) left right := by
  cases left with
  | error failure => cases right <;> rfl
  | ok content =>
    cases right with
    | error other => rfl
    | ok content' => exact or_congr injective.eq_iff Iff.rfl

end Outcomes

/-! ### Values that count as nothing -/

/-- The numbers that are zero, with a point or without. -/
inductive IsZero : Value → Prop
  | whole : IsZero (.int 0)
  | real {number : Binary64} (isZero : number.isZero = true) : IsZero (.real number)

/-- The bare values that count as nothing. Null and the empty list do as well, but are not bare. -/
inductive CountsAsNothing : Value → Prop
  | zero {value : Value} (isZero : IsZero value) : CountsAsNothing value
  | no : CountsAsNothing (.bool false)
  | text : CountsAsNothing (.text "")
  | object : CountsAsNothing (.object [])

theorem CountsAsNothing.isVoid {value : Value} (nothing : CountsAsNothing value) :
    value.isVoid = true := by
  cases nothing with
  | zero isZero =>
    cases isZero with
    | whole => rfl
    | real isZero => exact isZero
  | no | text | object => rfl

theorem countsAsNothing_iff {value : Value} (given : value ≠ .null)
    (bare : ∀ items, value ≠ .list items) : value.isVoid = true ↔ CountsAsNothing value := by
  constructor
  · intro void
    cases value with
    | null => contradiction
    | list items => exact absurd rfl (bare items)
    | bool truth =>
      cases truth with
      | false => exact .no
      | true => cases void
    | int whole =>
      obtain rfl : whole = 0 := beq_iff_eq.mp void
      exact .zero .whole
    | real number => exact .zero (.real void)
    | text written =>
      obtain rfl : written = "" := String.isEmpty_iff.mp void
      exact .text
    | object fields =>
      obtain rfl : fields = [] := List.isEmpty_iff.mp void
      exact .object
  · exact CountsAsNothing.isVoid

theorem IsZero.plain_eq {value : Value} (isZero : IsZero value) :
    value = .int 0 ∨ value.plain = "0.0" ∨ value.plain = "-0.0" := by
  cases isZero with
  | whole => exact .inl rfl
  | real isZero => exact .inr (Binary64.text_of_isZero isZero)

/-- What counts as nothing has a text. -/
theorem CountsAsNothing.word_eq {value : Value} (nothing : CountsAsNothing value) :
    word value = .ok value.plain :=
  word_eq_ok_iff.mpr ⟨Value.not_isUnshowable_of_isVoid nothing.isVoid, rfl⟩

theorem CountsAsNothing.plain_ne_placeholder {value : Value} (nothing : CountsAsNothing value) :
    value.plain ≠ placeholder := by
  cases nothing with
  | zero isZero =>
    rcases isZero.plain_eq with rfl | written | written
    · decide
    · rw [written]
      decide
    · rw [written]
      decide
  | no | text | object => decide

theorem IsZero.readNumber?_plain {value : Value} (isZero : IsZero value) :
    ∃ negative, readNumber? value.plain = some (Binary64.zero negative) := by
  rcases isZero.plain_eq with rfl | written | written
  · exact ⟨false, by decide +kernel⟩
  · exact ⟨false, by rw [written]; decide +kernel⟩
  · exact ⟨true, by rw [written]; decide +kernel⟩

/-- Of the values that count as nothing, only the zeros are written like numbers. -/
theorem CountsAsNothing.readNumber?_plain {value : Value} (nothing : CountsAsNothing value)
    (notZero : ¬IsZero value) : readNumber? value.plain = none := by
  cases nothing with
  | zero isZero => contradiction
  | no | text | object => decide +kernel

/-! ### Operators -/

/-- Behind a bare mark, what counts as nothing is no day count, except for an integer. -/
theorem parse_mark_append {value : Value} (nothing : CountsAsNothing value)
    (noInteger : value ≠ .int 0) (kind : RelativeKind) :
    Operator.parse (kind.mark ++ value.plain) = .ok none := by
  cases nothing with
  | zero isZero =>
    rcases isZero.plain_eq with isInteger | written | written
    · contradiction
    · rw [written]
      cases kind <;> rfl
    · rw [written]
      cases kind <;> rfl
  | no | text | object => cases kind <;> rfl

/-- A code that takes its day count from the value: the integer zero behind a bare mark. -/
def TakesZero (code value : Value) : Prop :=
  value = .int 0 ∧ ∃ kind : RelativeKind, code = .text kind.mark

theorem operatorOfCode_singleton {code : String} {value : Value} (nothing : CountsAsNothing value)
    (keeps : ¬TakesZero (.text code) value) :
    operatorOfCode code [value] = operatorOfCode code [] := by
  rw [@operatorOfCode_alone code [] (by simp)]
  by_cases marked : ∃ kind : RelativeKind, code = kind.mark
  · obtain ⟨kind, rfl⟩ := marked
    rw [operatorOfCode_mark, nothing.word_eq, ok_bind, parse_mark,
      parse_mark_append nothing (fun isZero => keeps ⟨isZero, kind, rfl⟩) kind]
  · exact operatorOfCode_alone fun ⟨kind, _, _, same, _⟩ => marked ⟨kind, same⟩

theorem settledOperator_singleton (property : String) (operator : Operator) {value : Value}
    (nothing : CountsAsNothing value) :
    settledOperator property operator [value] = settledOperator property operator [] := by
  have unnamed : [value.plain].contains placeholder = false := by
    rw [List.contains_eq_mem, decide_eq_false_iff_not, List.mem_singleton]
    exact nothing.plain_ne_placeholder.symm
  have words : [value].mapM word = .ok [value.plain] := by
    rw [List.mapM_cons, nothing.word_eq]
    rfl
  unfold settledOperator
  rw [words, ok_bind, unnamed]
  rfl

/-- A value that counts as nothing does not settle the operator. -/
theorem parseOperator_singleton {property : String} {code value : Value}
    (nothing : CountsAsNothing value) (keeps : ¬TakesZero code value) :
    parseOperator property code [value] = parseOperator property code [] := by
  unfold parseOperator
  cases code with
  | text code =>
    dsimp only
    rw [operatorOfCode_singleton nothing keeps]
    simp only [settledOperator_singleton property _ nothing]
  | _ => rfl

theorem parseOperator_mark_nil (property : String) (kind : RelativeKind) :
    parseOperator property (.text kind.mark) [] =
      .error (.parse (.unknownOperator property kind.mark)) := by
  cases kind <;> rfl

theorem parseOperator_mark_zero (property : String) (kind : RelativeKind) :
    parseOperator property (.text kind.mark) [.int 0] = .ok (.relative kind 0) := by
  have parsed : Operator.parse (kind.mark ++ (Value.int 0).plain) =
      .ok (some (.relative kind 0)) := by
    cases kind <;> rfl
  refine parseOperator_of_known ?_ nofun
  rw [operatorOfCode_mark, (CountsAsNothing.zero .whole).word_eq, ok_bind, parsed]
  rfl

/-! ### Values -/

theorem typedWords_ne_absent {property : String} {operator : Operator} {word : String}
    {rest : List String} : typedWords property operator (word :: rest) ≠ .ok .absent := by
  intro read
  have holds := holds_of_typedWords read
  generalize given : word :: rest = words at holds
  generalize same : FilterValue.absent = value at holds
  cases holds with
  | absent | count => cases given
  | identifiers => exact Sql.ofIds_ne_absent _ same.symm
  | texts => exact Sql.ofTexts_ne_absent _ same.symm
  | _ => cases same

/-- A day count has the same outcome as some words only if it is a number, and they are read as an
equal one. -/
theorem exists_number_of_sameOutcome {property : String} {operator : Operator} {kind : RelativeKind}
    {days : Int} {word : String} {rest : List String}
    (same : SameOutcome Agrees (defaultValue (.relative kind days))
      (typedWords property operator (word :: rest))) :
    ∃ number again, Binary64.ofInt? days = some number ∧
      typedWords property operator (word :: rest) = .ok (.number again) ∧
      (number = again ∨ number.compare? again = some .eq) := by
  have expected := not_failsBeyond_typedWords property operator word rest
  unfold defaultValue at same
  dsimp only [Operator.days?] at same
  cases rounded : Binary64.ofInt? days with
  | none =>
    -- A count beyond all numbers fails in a way in which words never do.
    rw [rounded] at same
    cases read : typedWords property operator (word :: rest) with
    | error failure =>
      rw [read] at same expected
      rw [failsBeyond_error, not_not] at expected
      rcases same with rfl | ⟨isParse, -⟩
      · cases expected
      · cases isParse
    | ok value =>
      rw [read] at same
      cases same
  | some number =>
    rw [rounded] at same
    cases read : typedWords property operator (word :: rest) with
    | error failure =>
      rw [read] at same
      cases same
    | ok value =>
      rw [read] at same
      rcases same with rfl | agrees
      · exact ⟨number, number, rfl, rfl, .inl rfl⟩
      · cases value with
        | number again => exact ⟨number, again, rfl, rfl, .inr agrees⟩
        | _ => cases agrees

/-- Where a number is expected, a single word is read as the number that it writes. -/
theorem typedWords_number_iff {property : String} {kind : RelativeKind} {days : Int}
    {word : String} {number : Binary64} (notIdentifier : PropertyClass.of property ≠ .identifier)
    (notTruth : PropertyClass.of property ≠ .truth) :
    typedWords property (.relative kind days) [word] = .ok (.number number) ↔
      readNumber? word = some number := by
  have isClass : effectiveClass property (.relative kind days) = .number :=
    effectiveClass_eq_number notIdentifier notTruth rfl
  rw [typedWords_singleValue isClass nofun nofun nofun]
  unfold singleValue
  dsimp only
  cases readNumber? word with
  | none => exact iff_of_false nofun nofun
  | some found => simp

/-- A value that counts as nothing has the same outcome alone as in a list if and only if it is a
zero and the day count that stands in for it is zero too. -/
theorem sameOutcome_typedWords_iff {property : String} {operator : Operator} {value : Value}
    (nothing : CountsAsNothing value) :
    SameOutcome Agrees (defaultValue operator) (typedWords property operator [value.plain]) ↔
      (∃ kind, operator = .relative kind 0) ∧ IsZero value ∧
        PropertyClass.of property ≠ .identifier ∧ PropertyClass.of property ≠ .truth := by
  cases operator with
  | fixed kind =>
    refine iff_of_false ?_ (fun zero => nomatch zero.1)
    cases read : typedWords property (.fixed kind) [value.plain] with
    | error failure => exact nofun
    | ok other =>
      rintro (rfl | agrees)
      · exact typedWords_ne_absent read
      · obtain rfl : FilterValue.absent = other := agrees
        exact typedWords_ne_absent read
  | relative kind days =>
    constructor
    · intro same
      obtain ⟨number, again, rounded, read, equal⟩ := exists_number_of_sameOutcome same
      -- Words are read as a number only where numbers are expected.
      have other (isClass : PropertyClass.of property = .identifier ∨
          PropertyClass.of property = .truth) : False :=
        List.cons_ne_nil _ _ ((holds_of_typedWords read).eq_nil_of_number rfl isClass)
      have notIdentifier : PropertyClass.of property ≠ .identifier := fun isClass =>
        other (.inl isClass)
      have notTruth : PropertyClass.of property ≠ .truth := fun isClass => other (.inr isClass)
      rw [typedWords_number_iff notIdentifier notTruth] at read
      have isZero : IsZero value := by
        by_contra notZero
        rw [nothing.readNumber?_plain notZero] at read
        cases read
      obtain ⟨negative, readZero⟩ := isZero.readNumber?_plain
      obtain rfl := Option.some.inj (readZero.symm.trans read)
      have equal : number.compare? (Binary64.zero negative) = some .eq := by
        rcases equal with rfl | equal
        · exact Binary64.compare?_zero negative negative
        · exact equal
      obtain ⟨whole, found, noDays, -⟩ := Binary64.toInt?_ofInt? rounded
      obtain rfl := noDays.mp ((Binary64.compare?_zero_iff found negative).mp equal)
      exact ⟨⟨kind, rfl⟩, isZero, notIdentifier, notTruth⟩
    · rintro ⟨⟨kind', same⟩, isZero, notIdentifier, notTruth⟩
      obtain ⟨rfl, rfl⟩ := Operator.relative.inj same
      obtain ⟨negative, readZero⟩ := isZero.readNumber?_plain
      rw [(typedWords_number_iff notIdentifier notTruth).mpr readZero]
      exact .inr (Binary64.compare?_zero false negative)

/-! ### Filters -/

/-- The body of a filter with a code and values. -/
def filterBody (code values : Value) : Value :=
  .object [("operator", code), ("values", values)]

/-- A compact form with a single filter. -/
def soleFilter (property : String) (code values : Value) : Value :=
  .list [.object [(property, filterBody code values)]]

/-- What a single filter is read as, once it is settled which values it is given. -/
def readSole (property : String) (code : Value) (values : List Value) :
    Except Failure FilterSet := do
  let operator ← parseOperator property code values
  (typedValue property operator values).map fun value => ⟨[⟨property, operator, value⟩]⟩

theorem parseFilters_soleFilter (property : String) (code values : Value) :
    parseFilters (soleFilter property code values) =
      readSole property code (rawValues (filterBody code values)) := by
  have member : parseMember property (filterBody code values) =
      parseOperator property code (rawValues (filterBody code values)) >>= fun operator =>
        (typedValue property operator (rawValues (filterBody code values))).map
          (Filter.mk property operator) := rfl
  change ([Value.object [(property, filterBody code values)]].mapM parseEntry >>= fun filters =>
    .ok (FilterSet.mk filters.flatten)) = _
  rw [List.mapM_cons, List.mapM_nil, parseEntry_singleton, member]
  unfold readSole
  cases parseOperator property code (rawValues (filterBody code values)) with
  | error failure => rfl
  | ok operator =>
    rw [ok_bind, ok_bind]
    cases typedValue property operator (rawValues (filterBody code values)) <;> rfl

theorem rawValues_list (code : Value) (values : List Value) :
    rawValues (filterBody code (.list values)) = values := rfl

theorem rawValues_bare (code : Value) {value : Value} (bare : ∀ items, value ≠ .list items) :
    rawValues (filterBody code value) = if value.isVoid then [] else [value] := by
  cases value with
  | list items => exact absurd rfl (bare items)
  | _ => rfl

/-- Whether a value that counts as nothing makes no difference to a filter: no operator is read,
neither with the value nor without; or the operator needs two values; or the day count that stands
in for the value is zero as well. -/
inductive MakesNoDifference (property : String) (code value : Value) : Prop
  | unread {failure : Failure} (fails : parseOperator property code [] = .error failure)
    (keeps : ¬TakesZero code value) : MakesNoDifference property code value
  | range (isRange : parseOperator property code [] = .ok (.fixed .between)) :
    MakesNoDifference property code value
  | zero {kind : RelativeKind} (today : parseOperator property code [] = .ok (.relative kind 0))
    (isZero : IsZero value) (notIdentifier : PropertyClass.of property ≠ .identifier)
    (notTruth : PropertyClass.of property ≠ .truth) : MakesNoDifference property code value

/-- Sets of filters agree if their filters do, one by one. -/
def FilterSetsAgree (left right : FilterSet) : Prop :=
  List.Forall₂ FiltersAgree left.filters right.filters

theorem sameOutcome_soleValue {property : String} {operator : Operator}
    {left right : Except Failure FilterValue} :
    SameOutcome FilterSetsAgree
        (left.map fun value => ⟨[⟨property, operator, value⟩]⟩)
        (right.map fun value => ⟨[⟨property, operator, value⟩]⟩) ↔
      SameOutcome Agrees left right := by
  have injective : Function.Injective
      fun value => FilterSet.mk [⟨property, operator, value⟩] := by
    intro first second same
    exact (Filter.mk.inj (List.singleton_injective (FilterSet.mk.inj same))).2.2
  have agree : (fun first second => FilterSetsAgree ⟨[⟨property, operator, first⟩]⟩
      ⟨[⟨property, operator, second⟩]⟩) = Agrees := by
    funext first second
    refine propext ⟨fun related => ?_, fun agrees => .cons ⟨rfl, rfl, agrees⟩ .nil⟩
    exact (List.forall₂_cons.mp related).1.value
  rw [sameOutcome_map injective, agree]

theorem CountsAsNothing.ne_null {value : Value} (nothing : CountsAsNothing value) :
    value ≠ .null := by
  rintro rfl
  cases nothing with
  | zero isZero => cases isZero

theorem wordsOf_singleton {value : Value} (given : value ≠ .null) :
    wordsOf [value] = [value.plain] := by
  rw [wordsOf, List.filter_singleton, beq_eq_false_iff_ne.mpr given]
  rfl

theorem CountsAsNothing.typedValue_eq {value : Value} (nothing : CountsAsNothing value)
    (property : String) (operator : Operator) :
    typedValue property operator [value] = valueOfWords property operator [value.plain] := by
  have showable : ∀ given ∈ [value], ¬given.IsUnshowable := by
    rw [List.forall_mem_singleton]
    exact Value.not_isUnshowable_of_isVoid nothing.isVoid
  rw [typedValue_of_showable showable, wordsOf_singleton nothing.ne_null]

/-- A zero that stands for itself is read under every property. -/
theorem exists_typedWords_zero (property : String) (kind : RelativeKind) :
    ∃ value, typedWords property (.relative kind 0) ["0"] = .ok value := by
  cases isClass : PropertyClass.of property with
  | identifier => exact ⟨_, @typedWords_identifiers _ _ [0] isClass (List.cons_ne_nil _ _)
      (fun _ => le_rfl) (by simp)⟩
  | truth =>
    have isTruth : effectiveClass property (.relative kind 0) = .truth := by
      rw [effectiveClass, isClass]
    rw [typedWords_singleValue isTruth nofun nofun nofun]
    exact ⟨.truth false, rfl⟩
  | day | number | free =>
    obtain ⟨negative, read⟩ := IsZero.whole.readNumber?_plain
    refine ⟨_, (typedWords_number_iff ?_ ?_).mpr read⟩ <;> rw [isClass] <;> exact nofun

theorem readSole_sameOutcome_iff {property : String} {code value : Value}
    (nothing : CountsAsNothing value) :
    SameOutcome FilterSetsAgree (readSole property code []) (readSole property code [value]) ↔
      MakesNoDifference property code value := by
  by_cases takes : TakesZero code value
  · -- Only the list turns the mark into an operator.
    obtain ⟨rfl, kind, rfl⟩ := takes
    have unknown := parseOperator_mark_nil property kind
    obtain ⟨read, found⟩ := exists_typedWords_zero property kind
    have typed : typedValue property (.relative kind 0) [.int 0] = .ok read := by
      rw [nothing.typedValue_eq, @valueOfWords_of_ne _ (.relative kind 0) _ nofun]
      exact found
    unfold readSole
    rw [unknown, parseOperator_mark_zero, ok_bind, typed]
    refine iff_of_false nofun fun noDifference => ?_
    cases noDifference with
    | unread fails keeps => exact keeps ⟨rfl, kind, rfl⟩
    | range isRange => cases unknown.symm.trans isRange
    | zero today => cases unknown.symm.trans today
  · unfold readSole
    rw [parseOperator_singleton nothing takes]
    cases parsed : parseOperator property code [] with
    | error failure => exact iff_of_true (.inl rfl) (.unread parsed takes)
    | ok operator =>
      rw [ok_bind, ok_bind, sameOutcome_soleValue]
      by_cases isRange : operator = .fixed .between
      · obtain rfl := isRange
        refine iff_of_true ?_ (.range parsed)
        rw [nothing.typedValue_eq, typedValue_of_unvalued rfl]
        exact .inl rfl
      · rw [nothing.typedValue_eq, typedValue_of_unvalued rfl, valueOfWords_of_ne _ isRange,
          valueOfWords_of_ne _ isRange]
        refine (sameOutcome_typedWords_iff nothing).trans ⟨?_, fun noDifference => ?_⟩
        · rintro ⟨⟨kind, rfl⟩, isZero, notIdentifier, notTruth⟩
          exact .zero parsed isZero notIdentifier notTruth
        · cases noDifference with
          | unread fails => cases parsed.symm.trans fails
          | range range => exact absurd (Except.ok.inj (parsed.symm.trans range)) isRange
          | zero today isZero notIdentifier notTruth =>
            exact ⟨⟨_, Except.ok.inj (parsed.symm.trans today)⟩, isZero, notIdentifier, notTruth⟩

/-- A filter is left without a value exactly if it is given none and its operator, of a fixed kind,
needs no two. -/
theorem typedValue_eq_absent_iff {property : String} {operator : Operator} {values : List Value} :
    typedValue property operator values = .ok .absent ↔
      wordsOf values = [] ∧ ∃ kind, kind ≠ .between ∧ operator = .fixed kind := by
  constructor
  · intro typed
    have holds := holds_of_typedValue typed
    have isFixed : ∃ kind, operator = .fixed kind := by
      cases operator with
      | fixed kind => exact ⟨kind, rfl⟩
      | relative kind days => exact absurd rfl (Sql.value_ne_absent_of_relative holds)
    obtain ⟨kind, rfl⟩ := isFixed
    have noRange : kind ≠ .between := by
      rintro rfl
      cases holds with
      | words noRange => exact noRange rfl
    have read := (typedValue_eq_ok_iff.mp typed).2
    rw [valueOfWords_of_ne _ fun same => noRange (Operator.fixed.inj same)] at read
    refine ⟨?_, kind, noRange, rfl⟩
    cases words : wordsOf values with
    | nil => rfl
    | cons word rest =>
      rw [words] at read
      exact absurd read typedWords_ne_absent
  · rintro ⟨unvalued, kind, noRange, rfl⟩
    rw [typedValue_of_unvalued unvalued,
      valueOfWords_of_ne _ fun same => noRange (Operator.fixed.inj same)]
    rfl

theorem readSole_absent_iff {property : String} {code : Value} {values : List Value} :
    (∃ filter, readSole property code values = .ok ⟨[filter]⟩ ∧ filter.value = .absent) ↔
      wordsOf values = [] ∧
        ∃ kind, kind ≠ .between ∧ parseOperator property code values = .ok (.fixed kind) := by
  constructor
  · rintro ⟨filter, read, absent⟩
    obtain ⟨operator, parsed, read⟩ := bind_eq_ok.mp read
    obtain ⟨value, typed, same⟩ := map_eq_ok.mp read
    obtain rfl := List.singleton_injective (FilterSet.mk.inj same)
    obtain rfl : value = .absent := absent
    obtain ⟨unvalued, kind, noRange, rfl⟩ := typedValue_eq_absent_iff.mp typed
    exact ⟨unvalued, kind, noRange, parsed⟩
  · rintro ⟨unvalued, kind, noRange, parsed⟩
    have typed : typedValue property (.fixed kind) values = .ok .absent :=
      typedValue_eq_absent_iff.mpr ⟨unvalued, kind, noRange, rfl⟩
    refine ⟨⟨property, .fixed kind, .absent⟩, ?_, rfl⟩
    rw [readSole, parsed, ok_bind, typed]
    rfl

/-- A filter has the same outcome with a bare value as with that value in a list, unless the value
counts as nothing and makes a difference. It is left without a value exactly if the bare value
counts as nothing under an operator of a fixed kind other than a range. -/
theorem bareValue_sameOutcome_iff (property : String) (code : Value) {value : Value}
    (given : value ≠ .null) (bare : ∀ items, value ≠ .list items) :
    (SameOutcome FilterSetsAgree (parseFilters (soleFilter property code value))
        (parseFilters (soleFilter property code (.list [value]))) ↔
      (CountsAsNothing value → MakesNoDifference property code value)) ∧
    ((∃ filter, parseFilters (soleFilter property code value) = .ok ⟨[filter]⟩ ∧
        filter.value = .absent) ↔
      CountsAsNothing value ∧
        ∃ kind, kind ≠ .between ∧ parseOperator property code [] = .ok (.fixed kind)) := by
  rw [parseFilters_soleFilter, parseFilters_soleFilter, rawValues_list, rawValues_bare code bare]
  by_cases nothing : CountsAsNothing value
  · rw [if_pos ((countsAsNothing_iff given bare).mpr nothing), readSole_sameOutcome_iff nothing,
      readSole_absent_iff]
    exact ⟨⟨fun noDifference _ => noDifference, fun noDifference => noDifference nothing⟩,
      and_congr_left' (iff_of_true rfl nothing)⟩
  · rw [if_neg fun void => nothing ((countsAsNothing_iff given bare).mp void)]
    refine ⟨iff_of_true (sameOutcome_refl _) fun isNothing => absurd isNothing nothing, ?_⟩
    rw [readSole_absent_iff, wordsOf_singleton given]
    exact iff_of_false nofun fun lost => nothing lost.1

/-- A bare zero under plain equality is lost, although a zero in a list is compared with. -/
theorem bareValue_sameOutcome_iff_ratio :
    Value.int 0 ≠ .null ∧ (∀ items, Value.int 0 ≠ .list items) ∧
      ¬SameOutcome FilterSetsAgree
        (parseFilters (soleFilter "done_ratio" (.text "=") (.int 0)))
        (parseFilters (soleFilter "done_ratio" (.text "=") (.list [.int 0]))) ∧
      ∃ filter, parseFilters (soleFilter "done_ratio" (.text "=") (.int 0)) = .ok ⟨[filter]⟩ ∧
        filter.value = .absent := by
  have parsed : parseOperator "done_ratio" (.text "=") [] = .ok (.fixed .equals) := rfl
  have nothing : CountsAsNothing (.int 0) := .zero .whole
  obtain ⟨same, lost⟩ := @bareValue_sameOutcome_iff "done_ratio" (.text "=") (.int 0) nofun nofun
  refine ⟨nofun, nofun, same.not.mpr fun noDifference => ?_,
    lost.mpr ⟨nothing, .equals, nofun, parsed⟩⟩
  cases noDifference nothing with
  | unread fails => cases parsed.symm.trans fails
  | range isRange => cases parsed.symm.trans isRange
  | zero today => cases parsed.symm.trans today

/-- A bare false is not read like a list with false alone. -/
theorem bareFalse_not_like_list :
    ¬∀ (property : String) (code value : Value), value ≠ .null → (∀ items, value ≠ .list items) →
      SameOutcome FilterSetsAgree (parseFilters (soleFilter property code value))
        (parseFilters (soleFilter property code (.list [value]))) := by
  intro alike
  have bare : parseFilters (soleFilter "status_is_closed" (.text "=") (.bool false)) =
      .ok ⟨[⟨"status_is_closed", .fixed .equals, .absent⟩]⟩ := rfl
  have listed : parseFilters (soleFilter "status_is_closed" (.text "=") (.list [.bool false])) =
      .ok ⟨[⟨"status_is_closed", .fixed .equals, .truth false⟩]⟩ :=
    eq_ok_of_toOption (by decide +kernel)
  have same := alike "status_is_closed" (.text "=") (.bool false) nofun nofun
  rw [bare, listed] at same
  rcases same with same | agree
  · cases same
  · cases (List.forall₂_cons.mp agree).1.value

end WorkQuery.CompactForm
