/-
This file says how the columns of custom fields are named: after the numbers of their fields, in
whatever form a number is given and whatever name goes with it (`named_after_field`). The name is
derived before the number is read and by another reader, but a column is only made where both take
the number, and then they agree on it (`givesInteger_iff`).
-/

import WorkQuery.Proofs.IntegerSpelling
import WorkQuery.Proofs.ResolvedNames
import WorkQuery.Proofs.ValidatedQuery

namespace WorkQuery

open Json Number Schema Text

namespace Column

/-! ### Columns of custom fields -/

/-- Whether members describe the column of a custom field: they say that it is one and give the
number of the field and what else there is to a column. They need not give a name. -/
structure DescribesField (fields : Fields) (id : Int) (caption : Option String)
    (sortable groupable : Bool) : Prop where
  kind : fields.get? "kind" = some (.text ColumnKind.customField.name)
  number : ∃ given, fields.get? "custom_field_id" = some given ∧ GivesInteger given id
  caption : Schema.optional fields "caption" none (nullable Schema.text) = .ok caption
  sortable : Schema.optional fields "sortable" true Schema.truth = .ok sortable
  groupable : Schema.optional fields "groupable" false Schema.truth = .ok groupable

theorem settledMembers_of_kind {fields : Fields} {given : Value} {id : Int}
    (custom : fields.get? "kind" = some (.text ColumnKind.customField.name))
    (identified : fields.get? "custom_field_id" = some given) (gives : GivesInteger given id) :
    settledMembers fields = .ok (fields.set "name" (.text (customFieldName id))) := by
  rw [settledMembers, custom, if_pos (beq_self_eq_true _), identified, Option.getD_some]
  split
  · exact absurd rfl gives.ne_null
  · rw [gives.convertInteger_eq]

/-- A described column is read under the name of its field. -/
theorem DescribesField.ofValue_eq {fields : Fields} {id : Int} {caption : Option String}
    {sortable groupable : Bool} (described : DescribesField fields id caption sortable groupable) :
    ofValue (.object fields) =
      .ok ⟨customFieldName id, .customField, caption, sortable, groupable, some id⟩ := by
  obtain ⟨given, identified, gives⟩ := described.number
  have named : required (fields.set "name" (.text (customFieldName id))) "name" Schema.text =
      .ok (customFieldName id) :=
    required_ok (Fields.get?_set_self fields "name" _) (text_text _)
  have kind : Schema.optional fields "kind" .property (memberOf ColumnKind.ofName?) =
      .ok .customField :=
    optional_ok described.kind
      (memberOf_text (ColumnKind.holdsHalf_name _) (ColumnKind.ofName?_name _))
  have number : Schema.optional fields "custom_field_id" none (nullable Schema.integer) =
      .ok (some id) := by
    refine optional_ok identified ?_
    rw [nullable_of_ne gives.ne_null, gives.integer_eq]
    rfl
  have settled := settledMembers_of_kind described.kind identified gives
  rw [ofValue, record, ok_bind, settled, ok_bind, named]
  simp (disch := decide) only [optional_settled settled, kind, described.caption,
    described.sortable, described.groupable, number]
  rfl

/-- Whatever is read as the column of a custom field has been described as one. -/
theorem exists_describesField {value : Value} {column : Column} (read : ofValue value = .ok column)
    (custom : column.kind = .customField) :
    ∃ fields id, value = .object fields ∧
      DescribesField fields id column.caption column.sortable column.groupable ∧
      column.customFieldId = some id ∧ column.name = customFieldName id := by
  obtain ⟨id, identified, named⟩ := isSettled_of_ofValue read custom
  obtain ⟨given, fields, rfl, settled, -, readKind, readCaption, readSortable, readGroupable,
    readId⟩ := exists_members_of_ofValue read
  have kind := get?_kind_of_read (by decide) (custom ▸ readKind)
  obtain ⟨raw, number, present, converted, taken, same, -⟩ :=
    number_of_settledMembers settled kind readId
  obtain rfl := Option.some.inj (identified.symm.trans same)
  exact ⟨given, id, rfl, ⟨kind, ⟨raw, present, givesInteger_iff.mpr ⟨converted, taken⟩⟩,
    readCaption, readSortable, readGroupable⟩, identified, named⟩

/-! ### However a column came about -/

/-- A name is that of a custom field if it is the mark and a number that is not misread. -/
theorem ofName_customField_iff {name : String} {column : Column} :
    ofName name = .ok column ∧ column.kind = .customField ↔
      ¬IsMisread name ∧ ∃ id : Nat, NamesField name id ∧ column = ofCustomField id := by
  constructor
  · rintro ⟨found, custom⟩
    refine ⟨exists_ofName_iff.mp ⟨column, found⟩, ?_⟩
    have ordinary : ∀ column ∈ catalogue, column.kind ≠ .customField := by decide
    cases standsFor_of_ofName found with
    | standard listed => exact absurd custom (ordinary column listed)
    | customField numbered => exact ⟨_, numbered, rfl⟩
    | property => cases custom
  · rintro ⟨sound, id, numbered, rfl⟩
    obtain ⟨column, found⟩ := exists_ofName_iff.mpr sound
    obtain rfl := (existsUnique_standsFor name).unique (standsFor_of_ofName found)
      (.customField numbered)
    exact ⟨found, rfl⟩

theorem ofNameValue_iff {given : Value} {column : Column} :
    ofNameValue given = .ok column ↔ ∃ name, given = .text name ∧ ofName name = .ok column := by
  constructor
  · intro found
    cases given with
    | text name => exact ⟨name, rfl, mapError_eq_ok.mp found⟩
    | _ => cases found
  · rintro ⟨name, rfl, found⟩
    exact mapError_eq_ok.mpr found

/-- A column of a custom field is named after the number of its field. A value is read as one if and
only if it describes one, and then under this name, whatever name the value has and in whichever
form the number is. A name gives one if and only if it is the mark and a number, and then under this
name too. What is read off a document is named in the same way, and the changes of a column leave it
so. -/
theorem named_after_field :
    (∀ value column, ofValue value = .ok column ∧ column.kind = .customField ↔
      ∃ fields id caption sortable groupable, value = .object fields ∧
        DescribesField fields id caption sortable groupable ∧
        column = ⟨customFieldName id, .customField, caption, sortable, groupable, some id⟩) ∧
    (∀ name column, ofName name = .ok column ∧ column.kind = .customField ↔
      ¬IsMisread name ∧ ∃ id : Nat, NamesField name id ∧ column = ofCustomField id) ∧
    (∀ given column, ofNameValue given = .ok column ↔
      ∃ name, given = .text name ∧ ofName name = .ok column) ∧
    (∀ document query, Query.ofDocument document = .ok query →
      ∀ column ∈ query.columns.columns, column.IsSettled) ∧
    ∀ column : Column, column.IsSettled → (∀ caption, (column.withCaption caption).IsSettled) ∧
      (∀ sortable, (column.withSortable sortable).IsSettled) ∧
      ∀ groupable, (column.withGroupable groupable).IsSettled := by
  refine ⟨fun value column => ⟨?_, ?_⟩, fun name column => ofName_customField_iff,
    fun given column => ofNameValue_iff, fun document query read column member =>
      isSettled_of_made (Query.isMade_of_ofDocument read column member),
    fun column settled => ⟨fun _ => settled, fun _ => settled, fun _ => settled⟩⟩
  · rintro ⟨read, custom⟩
    obtain ⟨fields, id, rfl, described, identified, named⟩ := exists_describesField read custom
    refine ⟨fields, id, _, _, _, rfl, described, ?_⟩
    rw [← named, ← identified, ← custom]
  · rintro ⟨fields, id, caption, sortable, groupable, rfl, described, rfl⟩
    exact ⟨described.ofValue_eq, rfl⟩

/-- A column with the name of another one, whose number is given with a sign, zeros, an underscore
and blanks. -/
def misnamed : Fields :=
  [("name", .text "cf_8"), ("kind", .text "custom_field"), ("custom_field_id", .text " +0_07 ")]

/-- What the column is read as. -/
def renamed : Column :=
  ⟨"cf_7", .customField, none, true, false, some 7⟩

/-- A document with the column. -/
def misnamedDocument : Value :=
  .object [("columns", .object [("columns", .list [.object misnamed])])]

theorem named_after_field_misnamed :
    ofValue (.object misnamed) = .ok renamed ∧
    ofName "cf_007" = .ok (ofCustomField 7) ∧
    ofNameValue (.text "cf_007") = .ok (ofCustomField 7) ∧
    (∃ query, Query.ofDocument misnamedDocument = .ok query ∧ renamed ∈ query.columns.columns ∧
      renamed.IsSettled) ∧
    (renamed.withCaption "Effort").IsSettled := by
  obtain ⟨ofValues, ofNames, ofNameValues, ofDocuments, changed⟩ := named_after_field
  have blank : ∀ character ∈ [' '], isSpace character = true :=
    List.forall_mem_singleton.mpr (by decide)
  have spelled : SpellsInteger " +0_07 ".toList 7 :=
    ⟨[' '], ['+'], ['0', '_', '0', '7'], ['0', '0', '7'], [' '], false, rfl, blank, blank, .plus,
      .apart rfl (.next rfl (.last rfl)), by decide, rfl⟩
  have described : DescribesField misnamed 7 none true false :=
    ⟨rfl, ⟨_, rfl, .text (by decide) spelled⟩, rfl, rfl, rfl⟩
  have numbered : NamesField "cf_007" 7 :=
    ⟨['0', '0', '7'], [0, 0, 7], rfl, by decide, by decide, rfl⟩
  have sound : ¬IsMisread "cf_007" := by
    rintro ⟨digits, same, -, -, long⟩
    obtain rfl : ['0', '0', '7'] = digits := ofList_inj_of_marked same
    exact absurd (long [0, 0, 7] (by decide)) (by decide)
  have named := ((ofNames _ _).mpr ⟨sound, 7, numbered, rfl⟩).1
  have read : Query.ofDocument misnamedDocument =
      .ok { Query.plain "Unnamed query" with columns := ⟨[renamed]⟩ } :=
    eq_ok_of_toOption (by decide +kernel)
  have settled := ofDocuments _ _ read renamed (List.mem_singleton_self _)
  exact ⟨((ofValues _ _).mpr ⟨_, _, _, _, _, rfl, described, rfl⟩).1, named,
    (ofNameValues _ _).mpr ⟨_, rfl, named⟩, ⟨_, read, List.mem_singleton_self _, settled⟩,
    (changed _ settled).1 _⟩

end Column

end WorkQuery
