/-
This file says which JSON values have a text. Showing a value fails exactly if the value holds an
integer with more digits than are written, or if more values stand inside each other than may
(`display_fails_iff`); a text is itself and never fails (`written_fails_iff`). Both faults can stand
at any depth, so the proof follows the walk through the value.
-/

import WorkQuery.CompactForm.Input
import WorkQuery.Proofs.Outcome

namespace WorkQuery

open Json Number

namespace Json.Value

/-! ### Values that cannot be shown -/

/-- An integer somewhere in a value has more digits than are written. -/
inductive HoldsLongInteger : Value → Prop
  | int {value : Int} (long : isTooLong value = true) : HoldsLongInteger (.int value)
  | item {items : List Value} {item : Value} (member : item ∈ items)
    (holds : HoldsLongInteger item) : HoldsLongInteger (.list items)
  | field {fields : Fields} {name : String} {value : Value} (member : (name, value) ∈ fields)
    (holds : HoldsLongInteger value) : HoldsLongInteger (.object fields)

/-- At least so many values stand inside each other, the outermost counted. -/
inductive Nests : Nat → Value → Prop
  | one (value : Value) : Nests 1 value
  | item {depth : Nat} {items : List Value} {item : Value} (member : item ∈ items)
    (nests : Nests depth item) : Nests (depth + 1) (.list items)
  | field {depth : Nat} {fields : Fields} {name : String} {value : Value}
    (member : (name, value) ∈ fields) (nests : Nests depth value) :
    Nests (depth + 1) (.object fields)

/-- A value cannot be shown. -/
def IsUnshowable (value : Value) : Prop :=
  HoldsLongInteger value ∨ Nests (displayDepth + 1) value

section Nested

variable {depth : Nat} {items : List Value} {fields : Fields}

theorem holdsLongInteger_list :
    HoldsLongInteger (.list items) ↔ ∃ item ∈ items, HoldsLongInteger item := by
  constructor
  · rintro ⟨⟩
    exact ⟨_, ‹_›, ‹_›⟩
  · rintro ⟨item, member, holds⟩
    exact .item member holds

theorem holdsLongInteger_object :
    HoldsLongInteger (.object fields) ↔ ∃ field ∈ fields, HoldsLongInteger field.2 := by
  constructor
  · rintro ⟨⟩
    exact ⟨_, ‹_›, ‹_›⟩
  · rintro ⟨field, member, holds⟩
    exact .field member holds

theorem nests_list : Nests (depth + 2) (.list items) ↔ ∃ item ∈ items, Nests (depth + 1) item := by
  constructor
  · rintro ⟨⟩
    exact ⟨_, ‹_›, ‹_›⟩
  · rintro ⟨item, member, nests⟩
    exact .item member nests

theorem nests_object :
    Nests (depth + 2) (.object fields) ↔ ∃ field ∈ fields, Nests (depth + 1) field.2 := by
  constructor
  · rintro ⟨⟩
    exact ⟨_, ‹_›, ‹_›⟩
  · rintro ⟨field, member, nests⟩
    exact .field member nests

/-- Nothing stands inside a value that is neither a list nor an object. -/
theorem not_nests {value : Value} (noList : ∀ items, value ≠ .list items)
    (noObject : ∀ fields, value ≠ .object fields) : ¬Nests (depth + 2) value := by
  intro nests
  cases nests with
  | item => exact noList _ rfl
  | field => exact noObject _ rfl

end Nested

/-! ### The walk through a value -/

mutual

/-- The walk comes upon a fault exactly if there is one of the two kinds. -/
theorem faultWithin?_ne_none : ∀ (room : Nat) (value : Value),
    faultWithin? room value ≠ none ↔ HoldsLongInteger value ∨ Nests (room + 1) value
  | 0, value => by
    rw [faultWithin?]
    exact iff_of_true nofun (.inr (.one value))
  | room + 1, .list items => by
    rw [faultWithin?, itemsFault?_ne_none, holdsLongInteger_list, nests_list, ← exists_or]
    exact exists_congr fun item => and_or_left
  | room + 1, .object fields => by
    rw [faultWithin?, fieldsFault?_ne_none, holdsLongInteger_object, nests_object, ← exists_or]
    exact exists_congr fun field => and_or_left
  | room + 1, .int value => by
    rw [faultWithin?]
    split
    · rename_i long
      exact iff_of_true nofun (.inl (.int long))
    · rename_i short
      refine iff_of_false (fun fault => fault rfl) (not_or.mpr ⟨?_, not_nests nofun nofun⟩)
      rintro ⟨long⟩
      exact short long
  | room + 1, .null | room + 1, .bool _ | room + 1, .real _ | room + 1, .text _ =>
    iff_of_false (fun fault => fault rfl) (not_or.mpr ⟨nofun, not_nests nofun nofun⟩)

theorem itemsFault?_ne_none : ∀ (room : Nat) (items : List Value),
    itemsFault? room items ≠ none ↔
      ∃ item ∈ items, HoldsLongInteger item ∨ Nests (room + 1) item
  | room, [] => by simp [itemsFault?]
  | room, item :: items => by
    rw [itemsFault?, ne_eq, Option.or_eq_none_iff, not_and_or, ← ne_eq, ← ne_eq,
      faultWithin?_ne_none, itemsFault?_ne_none]
    simp only [List.mem_cons, exists_eq_or_imp]

theorem fieldsFault?_ne_none : ∀ (room : Nat) (fields : Fields),
    fieldsFault? room fields ≠ none ↔
      ∃ field ∈ fields, HoldsLongInteger field.2 ∨ Nests (room + 1) field.2
  | room, [] => by simp [fieldsFault?]
  | room, (name, value) :: fields => by
    rw [fieldsFault?, ne_eq, Option.or_eq_none_iff, not_and_or, ← ne_eq, ← ne_eq,
      faultWithin?_ne_none, fieldsFault?_ne_none]
    simp only [List.mem_cons, exists_eq_or_imp]

end

/-- A value cannot be shown if there is a long integer in it or it goes too deep. -/
theorem display_fails_iff {value : Value} :
    (∃ fault, value.display = .error fault) ↔ value.IsUnshowable := by
  rw [IsUnshowable, ← faultWithin?_ne_none]
  unfold display
  cases value.faultWithin? displayDepth with
  | none => exact iff_of_false nofun fun fault => fault rfl
  | some fault => exact iff_of_true ⟨fault, rfl⟩ nofun

theorem not_isUnshowable_int {value : Int} (short : isTooLong value = false) :
    ¬IsUnshowable (.int value) := by
  refine not_or.mpr ⟨?_, not_nests nofun nofun⟩
  rintro ⟨long⟩
  rw [short] at long
  cases long

theorem not_isUnshowable_text (text : String) : ¬IsUnshowable (.text text) :=
  not_or.mpr ⟨nofun, not_nests nofun nofun⟩

/-- A value has no text if it cannot be shown. -/
theorem written_fails_iff {value : Value} :
    (∃ fault, value.written = .error fault) ↔ value.IsUnshowable := by
  unfold written
  cases value with
  | text text => exact iff_of_false nofun (not_isUnshowable_text text)
  | _ => exact display_fails_iff

/-- What counts as nothing can be shown. -/
theorem not_isUnshowable_of_isVoid {value : Value} (void : value.isVoid = true) :
    ¬value.IsUnshowable := by
  cases value with
  | int value =>
    obtain rfl : value = 0 := beq_iff_eq.mp void
    exact not_isUnshowable_int (by decide)
  | list items =>
    obtain rfl : items = [] := List.isEmpty_iff.mp void
    rw [IsUnshowable, ← faultWithin?_ne_none]
    exact fun fault => fault rfl
  | object fields =>
    obtain rfl : fields = [] := List.isEmpty_iff.mp void
    rw [IsUnshowable, ← faultWithin?_ne_none]
    exact fun fault => fault rfl
  | null | bool | real | text => exact not_or.mpr ⟨nofun, not_nests nofun nofun⟩

theorem IsUnshowable.ne_null {value : Value} (unshowable : value.IsUnshowable) :
    value ≠ .null := by
  rintro rfl
  exact not_isUnshowable_of_isVoid rfl unshowable

end Json.Value

/-! ### Words -/

namespace CompactForm

theorem word_text (text : String) : word (.text text) = .ok text := rfl

theorem word_fails_iff {value : Value} :
    (∃ failure, word value = .error failure) ↔ value.IsUnshowable := by
  rw [← Value.written_fails_iff]
  unfold word
  cases value.written with
  | error fault => exact iff_of_true ⟨_, rfl⟩ ⟨fault, rfl⟩
  | ok text => exact iff_of_false nofun nofun

theorem word_eq_ok_iff {value : Value} {text : String} :
    word value = .ok text ↔ ¬value.IsUnshowable ∧ value.plain = text := by
  rw [← word_fails_iff]
  cases given : word value with
  | error failure =>
    refine iff_of_false nofun fun showable => showable.1 ⟨failure, rfl⟩
  | ok text' =>
    have same := Value.plain_of_written (mapError_eq_ok.mp given)
    rw [same, Except.ok.injEq]
    exact (and_iff_right nofun).symm

/-- The words of values that can all be shown are their texts. -/
theorem mapM_word_eq_ok_iff {values : List Value} {words : List String} :
    values.mapM word = .ok words ↔
      (∀ value ∈ values, ¬value.IsUnshowable) ∧ values.map Value.plain = words := by
  induction values generalizing words with
  | nil =>
    rw [and_iff_right (List.forall_mem_nil _)]
    exact ⟨Except.ok.inj, congrArg Except.ok⟩
  | cons value values inductionHypothesis =>
    rw [List.forall_mem_cons, List.map_cons, List.mapM_cons, bind_eq_ok]
    constructor
    · rintro ⟨text, first, read⟩
      obtain ⟨others, rest, same⟩ := bind_eq_ok.mp read
      obtain rfl : text :: others = words := Except.ok.inj same
      obtain ⟨showable, rfl⟩ := word_eq_ok_iff.mp first
      obtain ⟨allShowable, rfl⟩ := inductionHypothesis.mp rest
      exact ⟨⟨showable, allShowable⟩, rfl⟩
    · rintro ⟨⟨showable, allShowable⟩, rfl⟩
      refine ⟨value.plain, word_eq_ok_iff.mpr ⟨showable, rfl⟩, ?_⟩
      rw [inductionHypothesis.mpr ⟨allShowable, rfl⟩]
      rfl

end CompactForm

end WorkQuery
