/-
This file holds the columns that a list of work packages shows. Columns have names; some names are
standard and come with a caption, a name of the form `cf_` and a number stands for a custom field,
and any other name is a plain property. A custom-field column is always named after the number of
its field, whatever name it is given with.
-/

import WorkQuery.Schema.Scalar

namespace WorkQuery

open Json Number Schema Text

/-! ### Kinds -/

/-- The kind of a column. -/
inductive ColumnKind
  | property
  | relation
  | customField
  | computed
deriving DecidableEq, Repr

namespace ColumnKind

/-- The name of a kind of columns. -/
def name : ColumnKind → String
  | property => "property"
  | relation => "relation"
  | customField => "custom_field"
  | computed => "computed"

/-- The kind of a name. -/
def ofName? (name : String) : Option ColumnKind :=
  [property, relation, customField, computed].find? fun kind => kind.name == name

end ColumnKind

/-! ### Columns -/

/-- A column. -/
structure Column where
  name : String
  kind : ColumnKind
  caption : Option String
  sortable : Bool
  groupable : Bool
  customFieldId : Option Int
deriving DecidableEq, Repr

namespace Column

/-- What the name of every custom-field column begins with. -/
def customFieldMark : String := "cf_"

/-- The name of the column of a custom field. -/
def customFieldName (id : Int) : String :=
  customFieldMark ++ integerText id

/-- The column of a plain property. -/
def ofProperty (name : String) : Column :=
  ⟨name, .property, none, true, false, none⟩

/-- The column of a relation. -/
def ofRelation (name : String) : Column :=
  ⟨name, .relation, none, false, false, none⟩

/-- The column of a custom field. -/
def ofCustomField (id : Int) : Column :=
  ⟨customFieldName id, .customField, none, true, true, some id⟩

/-- The column of a computed value. -/
def ofComputed (name : String) : Column :=
  ⟨name, .computed, none, false, false, none⟩

/-- The column with another caption. -/
def withCaption (column : Column) (caption : Option String) : Column :=
  { column with caption }

/-- The column with sorting allowed or not. -/
def withSortable (column : Column) (sortable : Bool) : Column :=
  { column with sortable }

/-- The column with grouping allowed or not. -/
def withGroupable (column : Column) (groupable : Bool) : Column :=
  { column with groupable }

/-- Whether the column shows a custom field. -/
def isCustomField (column : Column) : Bool :=
  column.kind == .customField

/-- What stands above the column: its caption, or its name if the caption is missing or empty. -/
def displayCaption (column : Column) : String :=
  match column.caption with
  | some caption => if caption = "" then column.name else caption
  | none => column.name

/-! ### The standard columns -/

/-- The standard columns, in the order of the catalogue. -/
def catalogue : List Column :=
  [⟨"id", .property, some "ID", true, false, none⟩,
   ⟨"subject", .property, some "Subject", true, false, none⟩,
   ⟨"type", .property, some "Type", true, true, none⟩,
   ⟨"status", .property, some "Status", true, true, none⟩,
   ⟨"priority", .property, some "Priority", true, true, none⟩,
   ⟨"assigned_to", .property, some "Assignee", true, true, none⟩,
   ⟨"author", .property, some "Author", true, true, none⟩,
   ⟨"project", .property, some "Project", true, true, none⟩,
   ⟨"start_date", .property, some "Start date", true, false, none⟩,
   ⟨"due_date", .property, some "Finish date", true, false, none⟩,
   ⟨"estimated_hours", .property, some "Estimated time", true, false, none⟩,
   ⟨"spent_hours", .computed, some "Spent time", true, false, none⟩,
   ⟨"remaining_hours", .computed, some "Remaining time", true, false, none⟩,
   ⟨"done_ratio", .property, some "% Done", true, false, none⟩,
   ⟨"created_at", .property, some "Created on", true, false, none⟩,
   ⟨"updated_at", .property, some "Updated on", true, false, none⟩,
   ⟨"version", .property, some "Version", true, true, none⟩,
   ⟨"category", .property, some "Category", true, true, none⟩,
   ⟨"parent", .relation, some "Parent", true, false, none⟩,
   ⟨"responsible", .property, some "Accountable", true, true, none⟩]

/-- The names of the columns that a list shows by default. -/
def defaultNames : List String :=
  ["id", "subject", "type", "status", "assigned_to", "priority"]

/-- The standard column of a name. -/
def standard? (name : String) : Option Column :=
  catalogue.find? fun column => column.name == name

/-- Whether a name reads as that of a custom field: the mark and then digits only. -/
def looksCustom (name : String) : Bool :=
  let characters := name.toList
  let digits := characters.drop customFieldMark.length
  customFieldMark.toList.isPrefixOf characters && !digits.isEmpty && digits.all isDigitLike

/-- The column that a stored name stands for. A name that shows digits which form no number fails,
since no custom field can have it. -/
def ofName (name : String) : Except ConversionFault Column :=
  match standard? name with
  | some column => .ok column
  | none =>
    if looksCustom name then
      let digits := String.ofList (name.toList.drop customFieldMark.length)
      ((readInteger digits).mapError (.text digits)).map ofCustomField
    else .ok (ofProperty name)

/-- The standard column of a name that is given as any value; only texts name one. -/
def standardOfValue : Value → Checked (Option Column)
  | .text name => .ok (standard? name)
  | .list _ => .error (.notKey "list")
  | .object _ => .error (.notKey "dict")
  | _ => .ok none

/-- The column of a stored name that is given as any value. -/
def ofNameValue (value : Value) : Checked Column :=
  match value with
  | .list _ => .error (.notKey "list")
  | .object _ => .error (.notKey "dict")
  | value => do
    let name ← textFor "startswith" value
    (ofName name).mapError .conversion

/-! ### Schema -/

/-- The members of a column with the name of a custom-field column derived from its number. A number
that is missing or that does not read as one is an issue; a value of a kind that has no number, and
an infinite one, stop the reading. -/
def settledMembers (fields : Fields) : Checked Fields :=
  if fields.get? "kind" == some (.text ColumnKind.customField.name) then
    match (fields.get? "custom_field_id").getD .null with
    | .null => reject (.breach .customFieldWithoutId)
    | id =>
      match convertInteger id with
      | .ok number => .ok (fields.set "name" (.text (customFieldName number)))
      | .error .infinite => .error (.conversion .infinite)
      | .error (.kind name) => .error (.conversion (.kind name))
      | .error fault => reject (.breach (.conversion fault))
  else .ok fields

/-- A column of a query document. -/
def ofValue (value : Value) : Checked Column := do
  let given ← record value
  let fields ← settledMembers given
  let name := (required fields "name" Schema.text).map Column.mk
  let kind := both name (optional fields "kind" .property (memberOf ColumnKind.ofName?))
  let caption := both kind (optional fields "caption" none (nullable Schema.text))
  let sortable := both caption (optional fields "sortable" true Schema.truth)
  let groupable := both sortable (optional fields "groupable" false Schema.truth)
  both groupable (optional fields "custom_field_id" none (nullable Schema.integer))

/-- The column of a custom field whose number is given as any value. -/
def ofCustomFieldValue (id : Value) : Checked Column :=
  ofValue (.object [("name", .text customFieldMark), ("kind", .text ColumnKind.customField.name),
    ("sortable", .bool true), ("groupable", .bool true), ("custom_field_id", id)])

/-- A column made from a name that is given as any value. -/
def named (make : String → Column) (name : Value) : Checked Column :=
  (within (.field "name") (Schema.text name)).map make

/-- A column in a query document. -/
def toValue (column : Column) : Value :=
  .object [("name", .text column.name), ("kind", .text column.kind.name),
    ("caption", .ofOption .text column.caption), ("sortable", .bool column.sortable),
    ("groupable", .bool column.groupable),
    ("custom_field_id", .ofOption .int column.customFieldId)]

end Column

end WorkQuery
