/-
This file says when a query document fails in another way than with a parse error. Readers refuse
what does not fit, and the issues of all parts are counted in the end. Only the number of a
custom-field column is converted before anything has checked it: a list, an object or an infinite
number in its place stops the reading of the whole document, wherever the column stands and whatever
else is wrong. Nothing else does (`failsBeyond_ofDocument_iff`).
-/

import WorkQuery.Proofs.CompactFailure
import WorkQuery.Proofs.DocumentForm

namespace WorkQuery

open Json Number Schema

/-! ### How a reading ends -/

namespace Schema

/-- A value is read or refused with issues, unless the condition holds; then a conversion fails. -/
inductive StopsIf {Content : Type} (condition : Prop) : Checked Content → Prop
  | read (otherwise : ¬condition) (content : Content) : StopsIf condition (.ok content)
  | refused (otherwise : ¬condition) (issues : List Issue) :
    StopsIf condition (.error (.invalid issues))
  | stopped (holds : condition) (fault : ConversionFault) :
    StopsIf condition (.error (.conversion fault))

/-- A reader that nothing stops. -/
def IsTolerant {Content : Type} (read : Value → Checked Content) : Prop :=
  ∀ value, StopsIf False (read value)

section Readings

variable {Content Argument Result : Type} {condition condition' : Prop}
  {conditionOf : Value → Prop} {read : Value → Checked Content} {fields : Fields} {name : String}

theorem StopsIf.congr {outcome : Checked Content} (ends : StopsIf condition outcome)
    (same : condition ↔ condition') : StopsIf condition' outcome :=
  propext same ▸ ends

theorem stopsIf_ok (content : Content) : StopsIf False (.ok content : Checked Content) :=
  .read id content

theorem stopsIf_reject (cause : Cause) : StopsIf False (reject cause : Checked Content) :=
  .refused id _

theorem StopsIf.within {step : Step} {outcome : Checked Content}
    (ends : StopsIf condition outcome) : StopsIf condition (within step outcome) := by
  cases ends with
  | read otherwise content => exact .read otherwise content
  | refused otherwise issues => exact .refused otherwise _
  | stopped holds fault => exact .stopped holds fault

theorem StopsIf.map {function : Content → Result} {outcome : Checked Content}
    (ends : StopsIf condition outcome) : StopsIf condition (outcome.map function) := by
  cases ends with
  | read otherwise content => exact .read otherwise _
  | refused otherwise issues => exact .refused otherwise issues
  | stopped holds fault => exact .stopped holds fault

/-- A reading goes on after issues, so that either of two parts can stop it. -/
theorem StopsIf.both {function : Checked (Argument → Content)} {argument : Checked Argument}
    (first : StopsIf condition function) (second : StopsIf condition' argument) :
    StopsIf (condition ∨ condition') (both function argument) := by
  cases first with
  | stopped holds fault => exact .stopped (.inl holds) fault
  | read otherwise function =>
    cases second with
    | read otherwise' argument => exact .read (not_or.mpr ⟨otherwise, otherwise'⟩) _
    | refused otherwise' issues => exact .refused (not_or.mpr ⟨otherwise, otherwise'⟩) issues
    | stopped holds fault => exact .stopped (.inr holds) fault
  | refused otherwise issues =>
    cases second with
    | read otherwise' argument => exact .refused (not_or.mpr ⟨otherwise, otherwise'⟩) issues
    | refused otherwise' issues' => exact .refused (not_or.mpr ⟨otherwise, otherwise'⟩) _
    | stopped holds fault => exact .stopped (.inr holds) fault

theorem StopsIf.before {function : Checked (Argument → Content)} {argument : Checked Argument}
    (first : StopsIf condition function) (second : StopsIf False argument) :
    StopsIf condition (Schema.both function argument) :=
  (first.both second).congr (or_iff_left id)

theorem StopsIf.after {function : Checked (Argument → Content)} {argument : Checked Argument}
    (second : StopsIf condition argument) (first : StopsIf False function) :
    StopsIf condition (Schema.both function argument) :=
  (first.both second).congr (or_iff_right id)

theorem StopsIf.bind {outcome : Checked Content} {continuation : Content → Checked Result}
    (first : StopsIf condition outcome) (next : ∀ content, StopsIf False (continuation content)) :
    StopsIf condition (outcome >>= continuation) := by
  cases first with
  | read otherwise content => exact (next content).congr (iff_of_false id otherwise)
  | refused otherwise issues => exact .refused otherwise issues
  | stopped holds fault => exact .stopped holds fault

theorem stopsIf_ite {test : Prop} [Decidable test] {first second : Checked Content}
    (ends : StopsIf condition first) (ends' : StopsIf condition second) :
    StopsIf condition (if test then first else second) := by
  split
  · exact ends
  · exact ends'

/-! ### Members and items -/

theorem stopsIf_record {value : Value} {conditionOf : Fields → Prop}
    {continuation : Fields → Checked Content}
    (next : ∀ fields, StopsIf (conditionOf fields) (continuation fields)) :
    StopsIf (∃ fields, value = .object fields ∧ conditionOf fields)
      (record value >>= continuation) := by
  cases value with
  | object fields =>
    refine (next fields).congr ⟨fun holds => ⟨fields, rfl, holds⟩, ?_⟩
    rintro ⟨fields', same, holds⟩
    exact Value.object.inj same ▸ holds
  | _ => exact .refused nofun _

theorem stopsIf_required (each : ∀ value, StopsIf (conditionOf value) (read value)) :
    StopsIf (∃ value, fields.get? name = some value ∧ conditionOf value)
      (required fields name read) := by
  unfold required
  cases fields.get? name with
  | none => exact .refused nofun _
  | some value =>
    refine (each value).within.congr ⟨fun holds => ⟨value, rfl, holds⟩, ?_⟩
    rintro ⟨value', same, holds⟩
    exact Option.some.inj same ▸ holds

theorem stopsIf_optional {fallback : Content}
    (each : ∀ value, StopsIf (conditionOf value) (read value)) :
    StopsIf (∃ value, fields.get? name = some value ∧ conditionOf value)
      (optional fields name fallback read) := by
  unfold Schema.optional
  cases fields.get? name with
  | none => exact .read nofun _
  | some value =>
    refine (each value).within.congr ⟨fun holds => ⟨value, rfl, holds⟩, ?_⟩
    rintro ⟨value', same, holds⟩
    exact Option.some.inj same ▸ holds

theorem stopsIf_readItems (each : ∀ value, StopsIf (conditionOf value) (read value))
    (values : List Value) (start : Nat) :
    StopsIf (∃ value ∈ values, conditionOf value) (readItems read start values) := by
  induction values generalizing start with
  | nil => exact .read (by simp) _
  | cons value values inductionHypothesis =>
    refine ((each value).within.map.both (inductionHypothesis (start + 1))).congr ?_
    simp

theorem stopsIf_items (each : ∀ value, StopsIf (conditionOf value) (read value))
    (value : Value) :
    StopsIf (∃ values, value = .list values ∧ ∃ item ∈ values, conditionOf item)
      (items read value) := by
  cases value with
  | list values =>
    refine (stopsIf_readItems each values 0).congr ⟨fun holds => ⟨values, rfl, holds⟩, ?_⟩
    rintro ⟨values', same, holds⟩
    exact Value.list.inj same ▸ holds
  | _ => exact .refused nofun _

namespace IsTolerant

theorem required (tolerant : IsTolerant read) : StopsIf False (required fields name read) :=
  (stopsIf_required tolerant).congr (by simp)

theorem optional {fallback : Content} (tolerant : IsTolerant read) :
    StopsIf False (optional fields name fallback read) :=
  (stopsIf_optional tolerant).congr (by simp)

theorem items (tolerant : IsTolerant read) : IsTolerant (items read) :=
  fun value => (stopsIf_items tolerant value).congr (by simp)

theorem nullable (tolerant : IsTolerant read) : IsTolerant (nullable read) := by
  intro value
  cases value with
  | null => exact stopsIf_ok _
  | _ => exact (tolerant _).map

theorem record {continuation : Fields → Checked Content}
    (next : ∀ fields, StopsIf False (continuation fields)) :
    IsTolerant fun value => record value >>= continuation :=
  fun _ => (stopsIf_record next).congr (by simp)

end IsTolerant

end Readings

/-! ### Single values -/

theorem isTolerant_text : IsTolerant text := by
  intro value
  cases value with
  | text written => exact stopsIf_ok written
  | _ => exact stopsIf_reject _

theorem stopsIf_whole (written : String) : StopsIf False (whole written) :=
  stopsIf_ite (stopsIf_reject _) (stopsIf_ok _)

theorem isTolerant_memberOf {Content : Type} (ofName? : String → Option Content) :
    IsTolerant (memberOf ofName?) := by
  intro value
  cases value with
  | text written =>
    refine (stopsIf_whole written).bind fun name => ?_
    cases ofName? name with
    | none => exact stopsIf_reject _
    | some member => exact stopsIf_ok member
  | _ => exact stopsIf_reject _

theorem stopsIf_integerOfText (written : String) : StopsIf False (integerOfText written) := by
  unfold integerOfText
  dsimp only
  split
  · exact stopsIf_ok _
  · exact stopsIf_reject _
  · exact stopsIf_reject _

theorem isTolerant_integer : IsTolerant integer := by
  intro value
  cases value with
  | int value => exact stopsIf_ok value
  | bool value => exact stopsIf_ok _
  | real value =>
    refine stopsIf_ite (stopsIf_reject _) ?_
    cases value.toInt? with
    | none => exact stopsIf_reject _
    | some whole => exact stopsIf_ite (stopsIf_ok whole) (stopsIf_reject _)
  | text written => exact (stopsIf_whole written).bind stopsIf_integerOfText
  | _ => exact stopsIf_reject _

theorem isTolerant_number : IsTolerant number := by
  intro value
  cases value with
  | real value => exact stopsIf_ok value
  | int value =>
    unfold number
    dsimp only
    split
    · exact stopsIf_ok _
    · exact stopsIf_reject _
  | bool value => exact stopsIf_ok _
  | text written =>
    refine (stopsIf_whole written).bind fun text => ?_
    dsimp only
    split
    · exact stopsIf_ok _
    · exact stopsIf_reject _
  | _ => exact stopsIf_reject _

theorem stopsIf_truthOfInteger (value : Int) : StopsIf False (truthOfInteger value) :=
  stopsIf_ite (stopsIf_ok _) (stopsIf_ite (stopsIf_ok _) (stopsIf_reject _))

theorem isTolerant_truth : IsTolerant truth := by
  intro value
  cases value with
  | bool value => exact stopsIf_ok value
  | int value => exact stopsIf_ite (stopsIf_truthOfInteger value) (stopsIf_reject _)
  | real value =>
    unfold truth
    dsimp only
    split
    · exact stopsIf_ite (stopsIf_truthOfInteger _) (stopsIf_reject _)
    · exact stopsIf_reject _
  | text written =>
    refine (stopsIf_whole written).bind fun text => ?_
    exact stopsIf_ite (stopsIf_ok _) (stopsIf_ite (stopsIf_ok _) (stopsIf_reject _))
  | _ => exact stopsIf_reject _

theorem stopsIf_dateOfCount (microseconds : Int) : StopsIf False (dateOfCount microseconds) := by
  unfold dateOfCount
  split
  · exact stopsIf_ite (stopsIf_ok _) (stopsIf_reject _)
  · exact stopsIf_ite (stopsIf_ite (stopsIf_reject _) (stopsIf_reject _)) (stopsIf_reject _)

theorem stopsIf_dateOfText (written : String) : StopsIf False (dateOfText written) := by
  unfold dateOfText
  dsimp only
  split
  · exact stopsIf_ok _
  · split
    · exact stopsIf_ite (stopsIf_ok _) (stopsIf_reject _)
    · exact stopsIf_dateOfCount _
    · refine stopsIf_ite (stopsIf_ite (stopsIf_reject _) ?_) (stopsIf_reject _)
      cases Calendar.Moment.read? (String.ofList ("2000".toList ++ written.toList.drop 4)) with
      | none => exact stopsIf_reject _
      | some moment => exact stopsIf_ite (stopsIf_reject _) (stopsIf_reject _)

theorem isTolerant_date : IsTolerant date := by
  intro value
  cases value with
  | text written => exact (stopsIf_whole written).bind stopsIf_dateOfText
  | int count => exact stopsIf_ite (stopsIf_dateOfCount _) (stopsIf_reject _)
  | real value =>
    unfold date
    dsimp only
    split
    · exact stopsIf_dateOfCount _
    · exact stopsIf_reject _
  | _ => exact stopsIf_reject _

end Schema

/-! ### Filters -/

namespace Operator

theorem stopsIf_ofKind (kind : OperatorKind) (days? : Option Int) :
    StopsIf False (ofKind kind days?) := by
  cases kind <;> cases days?
  · exact stopsIf_ok _
  · exact stopsIf_reject _
  · exact stopsIf_reject _
  · exact stopsIf_ok _

theorem isTolerant_ofRecord : IsTolerant ofRecord := by
  refine IsTolerant.record fun fields => StopsIf.bind ?_ fun parts => stopsIf_ofKind parts.1 parts.2
  exact (isTolerant_memberOf _).required.map.before isTolerant_integer.nullable.optional

/-- A code with a day count that cannot be read is refused like any other. -/
theorem isTolerant_ofValue : IsTolerant ofValue := by
  intro value
  cases value with
  | text code =>
    unfold ofValue
    dsimp only
    split
    · exact stopsIf_ok _
    · exact stopsIf_reject _
    · exact stopsIf_reject _
  | _ => exact isTolerant_ofRecord _

end Operator

namespace FilterValue

theorem stopsIf_requiredUnder {Content : Type} {read : Value → Checked Content} {fields : Fields}
    {name otherName : String} (tolerant : IsTolerant read) :
    StopsIf False (requiredUnder fields name otherName read) :=
  stopsIf_ite tolerant.required tolerant.required

theorem stopsIf_of_readerOf? {kind : String} {reader : Fields → Checked FilterValue}
    (known : readerOf? kind = some reader) (fields : Fields) : StopsIf False (reader fields) := by
  unfold readerOf? at known
  split at known <;> cases known
  · exact isTolerant_integer.required.map
  · exact isTolerant_integer.items.required.map
  · exact isTolerant_text.required.map
  · exact isTolerant_text.items.required.map
  · exact isTolerant_truth.required.map
  · exact isTolerant_date.required.map
  · exact (stopsIf_requiredUnder isTolerant_date).map.before isTolerant_date.required
  · exact isTolerant_number.required.map
  · exact stopsIf_ok _
  · exact stopsIf_ok _

theorem isTolerant_ofValue : IsTolerant ofValue := by
  intro value
  cases value with
  | object fields =>
    unfold ofValue
    dsimp only
    split
    · exact stopsIf_reject _
    · split
      · rename_i known
        exact (stopsIf_of_readerOf? known fields).within
      · exact stopsIf_reject _
    · exact stopsIf_reject _
  | _ => exact stopsIf_reject _

end FilterValue

namespace Filter

/-- Settling equality with the current user looks at values of every kind and stops at none. -/
theorem stopsIf_settledParts (fields : Fields) :
    StopsIf False (settledParts fields).1 ∧ StopsIf False (settledParts fields).2 := by
  have operator : StopsIf False (required fields "operator" Operator.ofValue) :=
    Operator.isTolerant_ofValue.required
  have value : StopsIf False (optional fields "value" .absent FilterValue.ofValue) :=
    FilterValue.isTolerant_ofValue.optional
  unfold settledParts
  dsimp only
  split
  · exact ⟨stopsIf_ok _, value⟩
  · split
    · exact ⟨operator, stopsIf_ok _⟩
    · exact ⟨operator, value⟩

theorem isTolerant_ofValue : IsTolerant ofValue :=
  IsTolerant.record fun fields =>
    (isTolerant_text.required.map.before (stopsIf_settledParts fields).1).before
      (stopsIf_settledParts fields).2

end Filter

theorem FilterSet.isTolerant_ofValue : IsTolerant FilterSet.ofValue :=
  IsTolerant.record fun _ => Filter.isTolerant_ofValue.items.optional.map

/-! ### Orders, groups and highlights -/

theorem SortCriterion.isTolerant_ofValue : IsTolerant SortCriterion.ofValue :=
  IsTolerant.record fun _ =>
    isTolerant_text.required.map.before (isTolerant_memberOf _).optional

theorem SortOrder.isTolerant_ofValue : IsTolerant SortOrder.ofValue :=
  IsTolerant.record fun _ => SortCriterion.isTolerant_ofValue.items.optional.map

theorem Grouping.isTolerant_ofValue : IsTolerant Grouping.ofValue :=
  IsTolerant.record fun _ =>
    isTolerant_text.nullable.optional.map.before isTolerant_truth.optional

theorem Highlighting.isTolerant_ofValue : IsTolerant Highlighting.ofValue :=
  IsTolerant.record fun _ =>
    (isTolerant_memberOf _).optional.map.before isTolerant_text.items.optional

/-! ### Columns -/

namespace Column

/-- A value that no number can be converted from, whatever its contents. -/
inductive IsNumberless : Value → Prop
  | list (items : List Value) : IsNumberless (.list items)
  | object (fields : Fields) : IsNumberless (.object fields)
  | infinite (negative : Bool) : IsNumberless (.real (.infinite negative))

/-- The members of a custom-field column that has a numberless value for its number. -/
def HasNumberlessId (fields : Fields) : Prop :=
  fields.get? "kind" = some (.text ColumnKind.customField.name) ∧
    ∃ id, fields.get? "custom_field_id" = some id ∧ IsNumberless id

/-- A value is numberless exactly if its conversion fails because of its kind or because it is
infinite. -/
theorem isNumberless_iff {id : Value} (given : id ≠ .null) :
    IsNumberless id ↔
      convertInteger id = .error .infinite ∨ ∃ kind, convertInteger id = .error (.kind kind) := by
  cases id with
  | null => exact absurd rfl given
  | bool truth => exact iff_of_false nofun (by simp [convertInteger])
  | int value => exact iff_of_false nofun (by simp [convertInteger])
  | real value =>
    cases value with
    | notANumber => exact iff_of_false nofun (by simp [convertInteger])
    | infinite negative => exact iff_of_true (.infinite negative) (.inl rfl)
    | finite => exact iff_of_false nofun (by simp [convertInteger])
  | text written =>
    refine iff_of_false nofun ?_
    dsimp only [convertInteger]
    cases readInteger written with
    | ok number => exact fun absurd => absurd.elim nofun nofun
    | error fault => exact fun absurd => absurd.elim nofun nofun
  | list items => exact iff_of_true (.list items) (.inr ⟨_, rfl⟩)
  | object members => exact iff_of_true (.object members) (.inr ⟨_, rfl⟩)

/-- Settling the name of a column converts its number before anything has checked it. -/
theorem stopsIf_settledMembers (fields : Fields) :
    StopsIf (HasNumberlessId fields) (settledMembers fields) := by
  unfold settledMembers HasNumberlessId
  split
  · rename_i isCustom
    have custom := beq_iff_eq.mp isCustom
    cases fields.get? "custom_field_id" with
    | none => exact .refused (by simp) _
    | some id =>
      have condition : IsNumberless id ↔
          fields.get? "kind" = some (.text ColumnKind.customField.name) ∧
            ∃ given, some id = some given ∧ IsNumberless given := by
        simp [custom]
      rw [Option.getD_some]
      refine StopsIf.congr ?_ condition
      split
      · exact .refused nofun _
      · rename_i given
        have numberless := isNumberless_iff given
        split
        · rename_i converted
          exact .read (by simp [numberless, converted]) _
        · rename_i converted
          exact .stopped (numberless.mpr (.inl converted)) _
        · rename_i kind converted
          exact .stopped (numberless.mpr (.inr ⟨kind, converted⟩)) _
        · rename_i fault finite noKind converted
          refine .refused (fun absurd => ?_) _
          rcases numberless.mp absurd with same | ⟨kind, same⟩
          · exact finite (Except.error.inj (converted.symm.trans same))
          · exact noKind kind (Except.error.inj (converted.symm.trans same))
  · rename_i notCustom
    exact .read (fun numberless => notCustom (beq_iff_eq.mpr numberless.1)) _

theorem stopsIf_ofValue (value : Value) :
    StopsIf (∃ fields, value = .object fields ∧ HasNumberlessId fields) (ofValue value) := by
  refine stopsIf_record fun given => (stopsIf_settledMembers given).bind fun fields => ?_
  exact ((((isTolerant_text.required.map.before (isTolerant_memberOf _).optional).before
    isTolerant_text.nullable.optional).before isTolerant_truth.optional).before
    isTolerant_truth.optional).before isTolerant_integer.nullable.optional

end Column

namespace ColumnSet

/-- The members of a column that a value lists as one of a column set. -/
def Lists (value : Value) (members : Fields) : Prop :=
  ∃ fields columns, value = .object fields ∧
    Fields.get? fields "columns" = some (.list columns) ∧ .object members ∈ columns

theorem stopsIf_ofValue (value : Value) :
    StopsIf (∃ members, Lists value members ∧ Column.HasNumberlessId members) (ofValue value) := by
  refine (stopsIf_record fun fields =>
    (stopsIf_optional (stopsIf_items Column.stopsIf_ofValue)).map).congr ?_
  constructor
  · rintro ⟨fields, rfl, list, found, columns, rfl, column, listed, members, rfl, numberless⟩
    exact ⟨members, ⟨fields, columns, rfl, found, listed⟩, numberless⟩
  · rintro ⟨members, ⟨fields, columns, rfl, found, listed⟩, numberless⟩
    exact ⟨fields, rfl, _, found, columns, rfl, _, listed, members, rfl, numberless⟩

end ColumnSet

/-! ### Documents -/

namespace Query

/-- The members of a column that a document lists. -/
def ListsColumn (document : Value) (members : Fields) : Prop :=
  ∃ fields set, document = .object fields ∧ Fields.get? fields "columns" = some set ∧
    ColumnSet.Lists set members

/-- Only a column with a numberless value for its number stops the reading of a document. -/
theorem stopsIf_ofValue (value : Value) :
    StopsIf (∃ members, ListsColumn value members ∧ Column.HasNumberlessId members)
      (ofValue value) := by
  have reading : StopsIf (∃ fields, value = .object fields ∧
      ∃ set, Fields.get? fields "columns" = some set ∧
        ∃ members, ColumnSet.Lists set members ∧ Column.HasNumberlessId members)
      (ofValue value) := by
    refine stopsIf_record fun fields => ?_
    -- The parts that are read after the columns, the last one first.
    refine .before ?_ isTolerant_truth.optional
    refine .before ?_ isTolerant_truth.optional
    refine .before ?_ isTolerant_truth.optional
    refine .before ?_ isTolerant_truth.optional
    refine .before ?_ (isTolerant_memberOf _).optional
    refine .before ?_ Highlighting.isTolerant_ofValue.optional
    refine .before ?_ Grouping.isTolerant_ofValue.optional
    refine .after (stopsIf_optional ColumnSet.stopsIf_ofValue) ?_
    -- The parts that are read before them.
    refine .before ?_ SortOrder.isTolerant_ofValue.optional
    refine .before ?_ FilterSet.isTolerant_ofValue.optional
    refine .before ?_ (isTolerant_memberOf _).optional
    refine .before ?_ isTolerant_truth.optional
    refine .before ?_ (isTolerant_memberOf _).optional
    refine .before ?_ isTolerant_integer.nullable.optional
    refine .before ?_ isTolerant_integer.nullable.optional
    exact isTolerant_integer.nullable.optional.map.before isTolerant_text.optional
  refine reading.congr ⟨?_, ?_⟩
  · rintro ⟨fields, rfl, set, found, members, lists, numberless⟩
    exact ⟨members, ⟨fields, set, rfl, found, lists⟩, numberless⟩
  · rintro ⟨members, ⟨fields, set, rfl, found, lists⟩, numberless⟩
    exact ⟨fields, rfl, set, found, members, lists, numberless⟩

/-- Counting turns issues into a parse error and nothing else. -/
theorem failsBeyond_counted {condition : Prop} {outcome : Checked Query}
    (ends : StopsIf condition outcome) :
    FailsBeyond Failure.IsParse (counted outcome) ↔ condition := by
  cases ends with
  | read otherwise query => exact iff_of_false (not_failsBeyond_ok query) otherwise
  | refused otherwise issues =>
    exact iff_of_false (fun fails => failsBeyond_error.mp fails trivial) otherwise
  | stopped holds fault => exact iff_of_true (failsBeyond_error.mpr not_false) holds

/-- The value of a document: that of its text, if it is a text that can be read, or itself. -/
def content? : Value → Option Value
  | .text text => if Text.holdsHalf text then none else (Json.read .document text).toOption
  | value => some value

theorem failsBeyond_ofText {text : String} :
    FailsBeyond Failure.IsParse (ofText text) ↔
      ∃ value, content? (.text text) = some value ∧
        ∃ members, ListsColumn value members ∧ Column.HasNumberlessId members := by
  unfold ofText content?
  dsimp only
  split
  · rw [failsBeyond_counted (stopsIf_reject _)]
    exact iff_of_false not_false (by simp)
  · cases Json.read .document text with
    | error fault =>
      dsimp only
      rw [failsBeyond_counted (stopsIf_reject _)]
      exact iff_of_false not_false (by simp [Except.toOption])
    | ok value =>
      dsimp only
      rw [failsBeyond_counted (stopsIf_ofValue value)]
      simp [Except.toOption]

/-- Documents are read, or refused with a parse error, except for those that list a custom-field
column with a list, an object or an infinite number for its number. -/
theorem failsBeyond_ofDocument_iff (document : Value) :
    FailsBeyond Failure.IsParse (ofDocument document) ↔
      ∃ value, content? document = some value ∧
        ∃ members, ListsColumn value members ∧ Column.HasNumberlessId members := by
  cases document with
  | text text => exact failsBeyond_ofText
  | _ =>
    unfold ofDocument content?
    dsimp only
    rw [failsBeyond_counted (stopsIf_ofValue _)]
    simp

/-- A document with a column of a custom field that has a list for its number. -/
def listForNumber : Value :=
  .object [("columns", .object [("columns", .list [.object
    [("kind", .text "custom_field"), ("custom_field_id", .list [])]])])]

/-- It is not the case that whatever is no query document is refused with a parse error. -/
theorem listForNumber_not_refused :
    ¬∀ document failure, ofDocument document = .error failure → failure.IsParse := by
  intro all
  exact all listForNumber (.conversion (.kind "list")) (by rfl)

end Query

end WorkQuery
