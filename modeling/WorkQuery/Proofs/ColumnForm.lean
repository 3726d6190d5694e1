/-
This file says which columns there can be and that documents keep them. A column of a custom field
is always named after the number of its field, however it came about (`isSettled_of_made`): the
name is derived from the number by one reader of integers and the number is read by another, and
the two agree. Such a column is read back from a document as it was written (`ofValue_toValue`).
-/

import WorkQuery.Proofs.LenientInteger
import WorkQuery.Proofs.ShownText

namespace WorkQuery

open Json Number Schema

/-! ### Members -/

namespace Json.Fields

theorem find?_replaced {fields : Fields} {name other : String} (different : other ≠ name)
    (value : Value) :
    (fields.map fun field => if field.1 == name then (name, value) else field).find?
      (fun field => field.1 == other) = fields.find? fun field => field.1 == other := by
  induction fields with
  | nil => rfl
  | cons field fields inductionHypothesis =>
    rw [List.map_cons, List.find?_cons, List.find?_cons, inductionHypothesis]
    by_cases same : field.1 = name
    · have notOther : (name == other) = false := beq_eq_false_iff_ne.mpr different.symm
      rw [if_pos (beq_iff_eq.mpr same), same, notOther]
    · rw [if_neg (mt beq_iff_eq.mp same)]

/-- Setting a member leaves the others alone. -/
theorem get?_set_of_ne (fields : Fields) {name other : String} (different : other ≠ name)
    (value : Value) : (set fields name value).get? other = get? fields other := by
  unfold set get?
  split
  · rw [find?_replaced different]
  · have notOther : (name == other) = false := beq_eq_false_iff_ne.mpr different.symm
    rw [List.find?_append, List.find?_cons, notOther, List.find?_nil, Option.or_none]

theorem find?_replaced_self {fields : Fields} {name : String}
    (present : fields.any (fun field => field.1 == name) = true) (value : Value) :
    (fields.map fun field => if field.1 == name then (name, value) else field).find?
      (fun field => field.1 == name) = some (name, value) := by
  induction fields with
  | nil => cases present
  | cons field fields inductionHypothesis =>
    rw [List.map_cons, List.find?_cons]
    by_cases same : field.1 = name
    · rw [if_pos (beq_iff_eq.mpr same), beq_self_eq_true]
    · have notSame : (field.1 == name) = false := beq_eq_false_iff_ne.mpr same
      rw [List.any_cons, notSame, Bool.false_or] at present
      rw [if_neg (mt beq_iff_eq.mp same), notSame]
      exact inductionHypothesis present

theorem get?_set_self (fields : Fields) (name : String) (value : Value) :
    (set fields name value).get? name = some value := by
  unfold set get?
  split
  · rename_i present
    rw [find?_replaced_self present]
    rfl
  · rename_i absent
    have nothing : fields.find? (fun field => field.1 == name) = none :=
      List.find?_eq_none.mpr fun field member same =>
        absent (List.any_eq_true.mpr ⟨field, member, same⟩)
    rw [List.find?_append, nothing, Option.none_or, List.find?_cons, beq_self_eq_true]
    rfl

end Json.Fields

namespace Schema

variable {Content : Type}

theorem required_eq_ok {fields : Fields} {name : String} {read : Value → Checked Content}
    {content : Content} (sound : required fields name read = .ok content) :
    ∃ value, fields.get? name = some value ∧ read value = .ok content := by
  have sound := within_eq_ok.mp sound
  split at sound
  · exact ⟨_, ‹_›, sound⟩
  · cases sound

theorem optional_eq_ok {fields : Fields} {name : String} {fallback content : Content}
    {read : Value → Checked Content} (sound : optional fields name fallback read = .ok content) :
    (fields.get? name = none ∧ content = fallback) ∨
      ∃ value, fields.get? name = some value ∧ read value = .ok content := by
  unfold optional at sound
  split at sound
  · exact .inr ⟨_, ‹_›, within_eq_ok.mp sound⟩
  · exact .inl ⟨‹_›, (Except.ok.inj sound).symm⟩

theorem required_ok {fields : Fields} {name : String} {value : Value}
    {read : Value → Checked Content} {content : Content} (found : fields.get? name = some value)
    (sound : read value = .ok content) : required fields name read = .ok content := by
  rw [required, found]
  exact within_eq_ok.mpr sound

theorem optional_ok {fields : Fields} {name : String} {value : Value} {fallback : Content}
    {read : Value → Checked Content} {content : Content} (found : fields.get? name = some value)
    (sound : read value = .ok content) : optional fields name fallback read = .ok content := by
  rw [optional, found]
  exact within_eq_ok.mpr sound

theorem text_text (written : String) : text (.text written) = .ok written := rfl

theorem eq_text_of_text {value : Value} {written : String} (read : text value = .ok written) :
    value = .text written := by
  cases value with
  | text value => exact congrArg Value.text (Except.ok.inj read)
  | _ => cases read

theorem truth_bool (value : Bool) : truth (.bool value) = .ok value := rfl

theorem whole_of_plain {text : String} (plain : Text.holdsHalf text = false) :
    whole text = .ok text := by
  rw [whole, plain]
  exact if_neg Bool.false_ne_true

theorem whole_eq_ok {written text : String} (read : whole written = .ok text) : text = written := by
  unfold whole at read
  split at read
  · cases read
  · exact (Except.ok.inj read).symm

theorem memberOf_eq_ok {ofName? : String → Option Content} {value : Value} {member : Content}
    (read : memberOf ofName? value = .ok member) :
    ∃ name, value = .text name ∧ ofName? name = some member := by
  cases value with
  | text name =>
    obtain ⟨text, readText, readMember⟩ := bind_eq_ok.mp read
    obtain rfl := whole_eq_ok readText
    split at readMember
    · rename_i found
      exact ⟨text, rfl, Except.ok.inj readMember ▸ found⟩
    · cases readMember
  | _ => cases read

/-- A name without halves of surrogate pairs is read as its member. -/
theorem memberOf_text {ofName? : String → Option Content} {name : String} {member : Content}
    (plain : Text.holdsHalf name = false) (found : ofName? name = some member) :
    memberOf ofName? (.text name) = .ok member := by
  rw [memberOf, whole_of_plain plain, ok_bind, found]
  rfl

theorem nullable_of_ne {value : Value} (something : value ≠ .null)
    (read : Value → Checked Content) :
    nullable read value = (read value).map some := by
  cases value with
  | null => exact absurd rfl something
  | _ => rfl

end Schema

/-! ### Columns that can be made -/

namespace ColumnKind

theorem ofName?_name (kind : ColumnKind) : ofName? kind.name = some kind := by
  cases kind <;> decide

theorem name_of_ofName? {name : String} {kind : ColumnKind} (found : ofName? name = some kind) :
    kind.name = name := by
  have named := List.find?_some found
  exact beq_iff_eq.mp named

theorem holdsHalf_name (kind : ColumnKind) : Text.holdsHalf kind.name = false := by
  cases kind <;> decide

end ColumnKind

namespace Column

/-- Whether the column, if it shows a custom field, is named after the number of the field. -/
def IsSettled (column : Column) : Prop :=
  column.kind = .customField →
    ∃ id, column.customFieldId = some id ∧ column.name = customFieldName id

/-- The columns that can be made: read from a value, found by a name, made for a property, a
relation, a computed value or a custom field, and changed in caption or uses. -/
inductive Made : Column → Prop
  | read {value : Value} {column : Column} (read : ofValue value = .ok column) : Made column
  | named {name : String} {column : Column} (found : ofName name = .ok column) : Made column
  | property (name : String) : Made (ofProperty name)
  | relation (name : String) : Made (ofRelation name)
  | computed (name : String) : Made (ofComputed name)
  | customField (id : Int) : Made (ofCustomField id)
  | withCaption {column : Column} (made : Made column) (caption : Option String) :
    Made (column.withCaption caption)
  | withSortable {column : Column} (made : Made column) (sortable : Bool) :
    Made (column.withSortable sortable)
  | withGroupable {column : Column} (made : Made column) (groupable : Bool) :
    Made (column.withGroupable groupable)

theorem isSettled_of_ne {column : Column} (different : column.kind ≠ .customField) :
    column.IsSettled :=
  fun same => absurd same different

theorem isSettled_ofCustomField (id : Int) : (ofCustomField id).IsSettled :=
  fun _ => ⟨id, rfl, rfl⟩

theorem isSettled_of_standard? {name : String} {column : Column}
    (found : standard? name = some column) : column.IsSettled := by
  have ordinary : ∀ column ∈ catalogue, column.kind ≠ .customField := by decide
  exact isSettled_of_ne (ordinary column (List.mem_of_find?_eq_some found))

theorem isSettled_of_ofName {name : String} {column : Column} (found : ofName name = .ok column) :
    column.IsSettled := by
  unfold ofName at found
  split at found
  · rename_i isStandard
    exact Except.ok.inj found ▸ isSettled_of_standard? isStandard
  · split at found
    · obtain ⟨id, -, rfl⟩ := map_eq_ok.mp found
      exact isSettled_ofCustomField id
    · exact Except.ok.inj found ▸ isSettled_of_ne nofun

/-- Settling the members of a column gives it a name if it shows a custom field, and else changes
nothing. -/
theorem settledMembers_eq_ok {given fields : Fields} (settled : settledMembers given = .ok fields) :
    (∃ id number, given.get? "custom_field_id" = some id ∧ id ≠ .null ∧
      convertInteger id = .ok number ∧
      fields = given.set "name" (.text (customFieldName number))) ∨
    (given.get? "kind" ≠ some (.text ColumnKind.customField.name) ∧ fields = given) := by
  unfold settledMembers at settled
  split at settled
  · left
    split at settled
    · cases settled
    · rename_i id present
      split at settled
      · rename_i number converted
        refine ⟨(given.get? "custom_field_id").getD .null, number, ?_, present, converted,
          (Except.ok.inj settled).symm⟩
        cases found : given.get? "custom_field_id" with
        | none => rw [found] at present; exact absurd rfl present
        | some id => rfl
      all_goals cases settled
  · rename_i notCustom
    right
    exact ⟨fun custom => notCustom (beq_iff_eq.mpr custom), (Except.ok.inj settled).symm⟩

/-- Settling the members leaves those other than the name alone. -/
theorem optional_settled {Content : Type} {given fields : Fields} {name : String}
    (settled : settledMembers given = .ok fields) (different : name ≠ "name") (fallback : Content)
    (read : Value → Checked Content) :
    Schema.optional fields name fallback read = Schema.optional given name fallback read := by
  rcases settledMembers_eq_ok settled with ⟨_, _, _, _, _, rfl⟩ | ⟨_, rfl⟩
  · rw [Schema.optional, Fields.get?_set_of_ne given different, Schema.optional]
  · rfl

/-- The parts of a column that is read. -/
theorem exists_members_of_ofValue {value : Value} {column : Column}
    (read : ofValue value = .ok column) :
    ∃ given fields, value = .object given ∧ settledMembers given = .ok fields ∧
      required fields "name" Schema.text = .ok column.name ∧
      Schema.optional given "kind" .property (memberOf ColumnKind.ofName?) = .ok column.kind ∧
      Schema.optional given "caption" none (nullable Schema.text) = .ok column.caption ∧
      Schema.optional given "sortable" true Schema.truth = .ok column.sortable ∧
      Schema.optional given "groupable" false Schema.truth = .ok column.groupable ∧
      Schema.optional given "custom_field_id" none (nullable Schema.integer) =
        .ok column.customFieldId := by
  cases value with
  | object given =>
    obtain ⟨_, same, readMembers⟩ := bind_eq_ok.mp read
    obtain rfl := Except.ok.inj same
    obtain ⟨fields, settled, readColumn⟩ := bind_eq_ok.mp readMembers
    simp (disch := decide) only [optional_settled settled] at readColumn
    obtain ⟨_, customFieldId, upToGroupable, readId, rfl⟩ := both_eq_ok readColumn
    obtain ⟨_, groupable, upToSortable, readGroupable, rfl⟩ := both_eq_ok upToGroupable
    obtain ⟨_, sortable, upToCaption, readSortable, rfl⟩ := both_eq_ok upToSortable
    obtain ⟨_, caption, upToKind, readCaption, rfl⟩ := both_eq_ok upToCaption
    obtain ⟨_, kind, upToName, readKind, rfl⟩ := both_eq_ok upToKind
    obtain ⟨name, readName, rfl⟩ := map_eq_ok.mp upToName
    exact ⟨given, fields, rfl, settled, readName, readKind, readCaption, readSortable,
      readGroupable, readId⟩
  | _ => cases read

theorem get?_kind_of_read {fields : Fields} {kind : ColumnKind} (different : kind ≠ .property)
    (read : Schema.optional fields "kind" .property (memberOf ColumnKind.ofName?) = .ok kind) :
    fields.get? "kind" = some (.text kind.name) := by
  rcases optional_eq_ok read with ⟨-, otherwise⟩ | ⟨given, found, readGiven⟩
  · exact absurd otherwise different
  · obtain ⟨name, rfl, isKind⟩ := memberOf_eq_ok readGiven
    rw [ColumnKind.name_of_ofName? isKind]
    exact found

/-- The number that the name of a custom field is derived from is the number that is read. -/
theorem number_of_settledMembers {given fields : Fields} {number? : Option Int}
    (settled : settledMembers given = .ok fields)
    (custom : given.get? "kind" = some (.text ColumnKind.customField.name))
    (read : Schema.optional given "custom_field_id" none (nullable Schema.integer) =
      .ok number?) :
    ∃ raw id, given.get? "custom_field_id" = some raw ∧ convertInteger raw = .ok id ∧
      Schema.integer raw = .ok id ∧ number? = some id ∧
      fields = given.set "name" (.text (customFieldName id)) := by
  obtain ⟨raw, number, present, something, converted, rfl⟩ :=
    (settledMembers_eq_ok settled).resolve_right fun ordinary => ordinary.1 custom
  rcases optional_eq_ok read with ⟨missing, -⟩ | ⟨other, found, readOther⟩
  · rw [present] at missing
    cases missing
  · rw [present] at found
    obtain rfl := Option.some.inj found
    rw [nullable_of_ne something] at readOther
    obtain ⟨id, taken, identified⟩ := map_eq_ok.mp readOther
    obtain rfl := integer_eq_of_convertInteger converted taken
    exact ⟨raw, id, present, converted, taken, identified.symm, rfl⟩

theorem isSettled_of_ofValue {value : Value} {column : Column} (read : ofValue value = .ok column) :
    column.IsSettled := by
  obtain ⟨given, fields, -, settled, readName, readKind, -, -, -, readId⟩ :=
    exists_members_of_ofValue read
  intro custom
  have kind := get?_kind_of_read (by decide) (custom ▸ readKind)
  obtain ⟨raw, id, -, -, -, identified, rfl⟩ := number_of_settledMembers settled kind readId
  obtain ⟨named, found, readNamed⟩ := required_eq_ok readName
  rw [Fields.get?_set_self] at found
  obtain rfl := Option.some.inj found
  exact ⟨id, identified, (Except.ok.inj readNamed).symm⟩

/-- However a column came about, a custom field has given it its name. -/
theorem isSettled_of_made {column : Column} (made : Made column) : column.IsSettled := by
  induction made with
  | read read => exact isSettled_of_ofValue read
  | named found => exact isSettled_of_ofName found
  | property | relation | computed => exact isSettled_of_ne nofun
  | customField id => exact isSettled_ofCustomField id
  | withCaption _ _ inductionHypothesis => exact inductionHypothesis
  | withSortable _ _ inductionHypothesis => exact inductionHypothesis
  | withGroupable _ _ inductionHypothesis => exact inductionHypothesis

/-- The members of a column in a document. -/
def documentMembers (column : Column) : Fields :=
  [("name", .text column.name), ("kind", .text column.kind.name),
    ("caption", .ofOption .text column.caption), ("sortable", .bool column.sortable),
    ("groupable", .bool column.groupable),
    ("custom_field_id", .ofOption .int column.customFieldId)]

theorem toValue_eq (column : Column) : column.toValue = .object column.documentMembers := rfl

/-- A settled column is named again as it was. -/
theorem settledMembers_documentMembers {column : Column} (settled : column.IsSettled) :
    settledMembers column.documentMembers = .ok column.documentMembers := by
  obtain ⟨name, kind, caption, sortable, groupable, customFieldId⟩ := column
  cases kind with
  | customField =>
    obtain ⟨id, rfl, rfl⟩ := settled rfl
    rfl
  | property | relation | computed => rfl

/-- A column is read back from a document. -/
theorem ofValue_toValue {column : Column} (settled : column.IsSettled) :
    ofValue column.toValue = .ok column := by
  rw [toValue_eq, ofValue, record, ok_bind, settledMembers_documentMembers settled, ok_bind,
    required_ok rfl (text_text column.name),
    optional_ok rfl (memberOf_text (ColumnKind.holdsHalf_name column.kind)
      (ColumnKind.ofName?_name column.kind)),
    optional_ok rfl (RawRow.nullable_texts column.caption),
    optional_ok rfl (truth_bool column.sortable), optional_ok rfl (truth_bool column.groupable),
    optional_ok rfl (RawRow.nullable_integers column.customFieldId)]
  rfl

end Column

end WorkQuery
