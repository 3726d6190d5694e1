/-
This file says what is read back from a query document that was written. Every part of a query is
read back as it was, with one exception: plain equality and equality with the current user share a
code, and it is the value beside it that tells them apart. So a filter is read back in a normal form
(`Filter.reread`), and a query with the normal forms of its filters (`ofDocument_toValue`). A day
count is written into a code, which has room for no more digits than an integer in a text; a query
with a longer count is not read back at all (`hasShortCounts_of_ofDocument`).
-/

import WorkQuery.Proofs.ColumnForm
import WorkQuery.Proofs.OperatorCode
import WorkQuery.Query.Document

namespace WorkQuery

open Calendar Json Number Schema Text

/-! ### Lists -/

namespace Schema

variable {Content : Type}

theorem readItems_map {read : Value → Checked Content} {write : Content → Value}
    {again : Content → Content} {contents : List Content}
    (each : ∀ content ∈ contents, read (write content) = .ok (again content)) (start : Nat) :
    readItems read start (contents.map write) = .ok (contents.map again) := by
  induction contents generalizing start with
  | nil => rfl
  | cons content contents inductionHypothesis =>
    rw [List.forall_mem_cons] at each
    rw [List.map_cons, readItems, each.1, inductionHypothesis each.2]
    rfl

/-- A list that is written item by item is read back item by item. -/
theorem items_map {read : Value → Checked Content} {write : Content → Value}
    {again : Content → Content} {contents : List Content}
    (each : ∀ content ∈ contents, read (write content) = .ok (again content)) :
    items read (.list (contents.map write)) = .ok (contents.map again) :=
  readItems_map each 0

theorem items_map_self {read : Value → Checked Content} {write : Content → Value}
    {contents : List Content} (each : ∀ content ∈ contents, read (write content) = .ok content) :
    items read (.list (contents.map write)) = .ok contents := by
  have found : items read (.list (contents.map write)) = .ok (contents.map id) := items_map each
  rw [List.map_id] at found
  exact found

/-- A list is read only if each of its items is. -/
theorem exists_of_readItems {read : Value → Checked Content} {given : List Value}
    {contents : List Content} {start : Nat} (found : readItems read start given = .ok contents) :
    ∀ item ∈ given, ∃ content, read item = .ok content := by
  induction given generalizing start contents with
  | nil => exact List.forall_mem_nil _
  | cons item given inductionHypothesis =>
    obtain ⟨_, _, first, rest, -⟩ := both_eq_ok found
    obtain ⟨content, readFirst, -⟩ := map_eq_ok.mp first
    exact List.forall_mem_cons.mpr
      ⟨⟨content, within_eq_ok.mp readFirst⟩, inductionHypothesis rest⟩

theorem length_of_readItems {read : Value → Checked Content} {given : List Value}
    {contents : List Content} {start : Nat} (found : readItems read start given = .ok contents) :
    contents.length = given.length := by
  induction given generalizing start contents with
  | nil =>
    obtain rfl := Except.ok.inj found
    rfl
  | cons item given inductionHypothesis =>
    obtain ⟨_, others, first, rest, rfl⟩ := both_eq_ok found
    obtain ⟨content, -, rfl⟩ := map_eq_ok.mp first
    exact congrArg (· + 1) (inductionHypothesis rest)

theorem forall_of_readItems {read : Value → Checked Content} {property : Content → Prop}
    (each : ∀ item content, read item = .ok content → property content) {given : List Value}
    {contents : List Content} {start : Nat} (found : readItems read start given = .ok contents) :
    ∀ content ∈ contents, property content := by
  induction given generalizing start contents with
  | nil =>
    obtain rfl := Except.ok.inj found
    exact List.forall_mem_nil _
  | cons item given inductionHypothesis =>
    obtain ⟨_, others, first, rest, rfl⟩ := both_eq_ok found
    obtain ⟨content, readFirst, rfl⟩ := map_eq_ok.mp first
    exact List.forall_mem_cons.mpr
      ⟨each item content (within_eq_ok.mp readFirst), inductionHypothesis rest⟩

/-! ### Days -/

theorem readDay?_text (date : Date) :
    Moment.readDay? date.text.toList = some ((date.year, date.month, date.day), []) := by
  obtain ⟨-, year, first, last⟩ := date.isDay
  have month := Date.month_le (lt_of_lt_of_le first last)
  have day := le_trans last (Date.monthLength_le date.year date.month)
  have smallDay : date.day < 10 ^ 2 := by omega
  have readDay := Date.fixedNumber?_paddedText (by decide) smallDay []
  rw [List.append_nil] at readDay
  rw [Moment.readDay?, Date.toList_text, Date.fixedNumber?_paddedText (by decide) (by omega)]
  simp only [Option.bind_eq_bind, Option.bind_some, Date.afterHyphen?]
  rw [Date.fixedNumber?_paddedText (by decide) (by omega)]
  simp only [Option.bind_some]
  rw [readDay]
  rfl

/-- A written day is read back. -/
theorem date_text (day : Date) : date (.text day.text) = .ok day := by
  change (whole day.text >>= dateOfText) = _
  rw [whole_of_plain (holdsHalf_dateText day), ok_bind, dateOfText, readDay?_text]
  dsimp only
  rw [Option.bind_some, Date.of?_fields]

end Schema

/-! ### Values of filters -/

namespace FilterValue

theorem requiredUnder_ok {Content : Type} {fields : Fields} {name otherName : String}
    {value : Value} {read : Value → Checked Content} {content : Content}
    (found : fields.get? name = some value) (sound : read value = .ok content) :
    requiredUnder fields name otherName read = .ok content := by
  rw [requiredUnder, found, Option.isNone_some, Bool.false_and, if_neg Bool.false_ne_true]
  exact required_ok found sound

theorem ofValue_toValue_of_reader {value : FilterValue} {reader : Fields → Checked FilterValue}
    (known : readerOf? value.kindName = some reader)
    (sound : reader (("kind", .text value.kindName) :: value.members) = .ok value) :
    ofValue value.toValue = .ok value := by
  have tagged : Fields.get? (("kind", .text value.kindName) :: value.members) "kind" =
      some (.text value.kindName) := rfl
  simp only [toValue, ofValue, tagged, known]
  exact within_eq_ok.mpr sound

/-- A filter value is read back from a document. -/
theorem ofValue_toValue (value : FilterValue) : ofValue value.toValue = .ok value := by
  cases value with
  | ids values =>
    have read : items integer (.list (values.map .int)) = .ok values :=
      items_map_self fun _ _ => rfl
    exact ofValue_toValue_of_reader rfl (by rw [required_ok rfl read]; rfl)
  | texts values =>
    have read := items_map_self fun value (_ : value ∈ values) => text_text value
    exact ofValue_toValue_of_reader rfl (by rw [required_ok rfl read]; rfl)
  | date day =>
    exact ofValue_toValue_of_reader rfl (by rw [required_ok rfl (date_text day)]; rfl)
  | dates first last =>
    refine ofValue_toValue_of_reader rfl ?_
    rw [requiredUnder_ok rfl (date_text first), required_ok rfl (date_text last)]
    rfl
  | id | text | truth | number | currentUser | absent => rfl

theorem kindName_eq_currentUser {value : FilterValue} :
    value.kindName = "current_user" ↔ value = .currentUser := by
  cases value <;> simp [kindName]

end FilterValue

/-! ### Operators -/

namespace Operator

/-- Whether the day count, if there is one, has no more digits than an integer in a text may. -/
def HasShortCount (operator : Operator) : Prop :=
  ∀ days, operator.days? = some days → days.natAbs < 10 ^ digitLimit

/-- The operator that a code of an operator is read as. -/
def canonical : Operator → Operator
  | fixed kind => fixed kind.canonical
  | relative kind days => relative kind days

theorem ofValue_code {operator : Operator} (short : operator.HasShortCount) :
    ofValue (.text operator.code) = .ok operator.canonical := by
  cases operator with
  | fixed kind =>
    rw [ofValue, parse_fixed]
    rfl
  | relative kind days =>
    rw [ofValue, parse_relative kind (short days rfl)]
    rfl

/-- A longer day count is not read back. -/
theorem hasShortCount_of_ofValue_code {operator again : Operator}
    (read : ofValue (.text operator.code) = .ok again) : operator.HasShortCount := by
  intro days counted
  cases operator with
  | fixed kind => cases counted
  | relative kind days' =>
    obtain rfl : days' = days := Option.some.inj counted
    by_contra long
    have count := not_le.mp (mt (Nat.length_toDigits_le_iff (by decide) (by decide)).mp long)
    rw [ofValue, parse_relative_eq, readDays_eq, if_pos count] at read
    cases read

/-- Two operators share the code of equality. -/
theorem code_eq_iff {operator : Operator} :
    operator.code = "=" ↔ operator = .fixed .equals ∨ operator = .fixed .currentUserEquals := by
  cases operator with
  | fixed kind => cases kind <;> simp [code, FixedKind.code]
  | relative kind days =>
    refine iff_of_false (fun equality => ?_) (by simp)
    have begins := isPrefixOf_mark kind (integerText days).toList
    rw [← String.toList_append, ← code_relative, equality] at begins
    have none := ofCode?_of_mark begins
    have some : FixedKind.ofCode? "=" = .some .equals := by decide
    rw [some] at none
    cases none

theorem hasShortCount_of_code {operator : Operator} (equality : operator.code = "=") :
    operator.HasShortCount := by
  rcases code_eq_iff.mp equality with rfl | rfl <;> exact nofun

theorem canonical_eq_self_iff {operator : Operator} :
    operator.canonical = operator ↔ operator ≠ .fixed .currentUserEquals := by
  cases operator with
  | fixed kind => cases kind <;> simp [canonical, FixedKind.canonical]
  | relative kind days => simp [canonical]

end Operator

/-! ### Filters -/

namespace Filter

/-- The filter that a written filter is read as. Equality is with the current user exactly if the
placeholder stands beside it. -/
def reread (filter : Filter) : Filter :=
  if filter.operator.code = "=" ∧ filter.value = .currentUser then
    .currentUser filter.property
  else ⟨filter.property, filter.operator.canonical, filter.value⟩

/-- The members of a filter in a document. -/
def documentMembers (filter : Filter) : Fields :=
  [("attribute", .text filter.property), ("operator", .text filter.operator.code),
    ("value", filter.value.toValue)]

theorem toValue_eq (filter : Filter) : filter.toValue = .object filter.documentMembers := rfl

/-- The operator of a written filter is read off its code, unless equality has the placeholder. -/
theorem settledParts_documentMembers (filter : Filter) :
    settledParts filter.documentMembers =
      (if filter.operator.code = "=" ∧ filter.value = .currentUser then
          .ok (.fixed .currentUserEquals)
        else required filter.documentMembers "operator" Operator.ofValue,
        optional filter.documentMembers "value" .absent FilterValue.ofValue) := by
  have equality : ((Value.text filter.operator.code == .text "=" &&
      Value.text filter.value.kindName == .text "current_user") = true) =
      (filter.operator.code = "=" ∧ filter.value = .currentUser) := by
    rw [Bool.and_eq_true, beq_iff_eq, beq_iff_eq, Value.text.injEq, Value.text.injEq,
      FilterValue.kindName_eq_currentUser]
  change (if (Value.text filter.operator.code == .text "=" &&
      Value.text filter.value.kindName == .text "current_user") = true then _ else _) = _
  simp only [equality]
  split
  · rfl
  · rfl

/-- A filter with a short day count is read back in its normal form. -/
theorem ofValue_toValue {filter : Filter} (short : filter.operator.HasShortCount) :
    ofValue filter.toValue = .ok filter.reread := by
  rw [toValue_eq, ofValue, record, ok_bind, settledParts_documentMembers,
    required_ok rfl (text_text filter.property),
    optional_ok rfl (FilterValue.ofValue_toValue filter.value),
    required_ok rfl (Operator.ofValue_code short), reread]
  by_cases equality : filter.operator.code = "=" ∧ filter.value = .currentUser
  · rw [if_pos equality, if_pos equality, equality.2]
    rfl
  · rw [if_neg equality, if_neg equality]
    rfl

theorem hasShortCount_of_ofValue {filter again : Filter}
    (read : ofValue filter.toValue = .ok again) : filter.operator.HasShortCount := by
  rw [toValue_eq, ofValue, record, ok_bind, settledParts_documentMembers] at read
  obtain ⟨_, _, upToOperator, -, -⟩ := both_eq_ok read
  obtain ⟨_, operator, -, readOperator, -⟩ := both_eq_ok upToOperator
  split at readOperator
  · rename_i equality
    exact Operator.hasShortCount_of_code equality.1
  · obtain ⟨code, found, readCode⟩ := required_eq_ok readOperator
    obtain rfl := Option.some.inj found
    exact Operator.hasShortCount_of_ofValue_code readCode

/-- A filter is its own normal form unless one of the two equalities has the value of the other. -/
theorem reread_eq_self_iff {filter : Filter} :
    filter.reread = filter ↔
      (filter.operator = .fixed .currentUserEquals → filter.value = .currentUser) ∧
      (filter.operator = .fixed .equals → filter.value ≠ .currentUser) := by
  obtain ⟨property, operator, value⟩ := filter
  rw [reread]
  dsimp only
  by_cases equality : operator.code = "=" ∧ value = .currentUser
  · obtain ⟨shared, rfl⟩ := equality
    rw [if_pos ⟨shared, rfl⟩]
    rcases Operator.code_eq_iff.mp shared with rfl | rfl <;> simp [currentUser]
  · rw [if_neg equality, Filter.mk.injEq, Operator.canonical_eq_self_iff]
    rw [Operator.code_eq_iff] at equality
    tauto

end Filter

/-! ### Lists of parts -/

/-- Filters with short day counts are read back in their normal forms. -/
theorem FilterSet.ofValue_toValue {set : FilterSet}
    (short : ∀ filter ∈ set.filters, filter.operator.HasShortCount) :
    ofValue set.toValue = .ok ⟨set.filters.map Filter.reread⟩ := by
  have found := items_map fun filter member => Filter.ofValue_toValue (short filter member)
  rw [toValue, ofValue, record, ok_bind, optional_ok rfl found]
  rfl

theorem FilterSet.hasShortCounts_of_ofValue {set again : FilterSet}
    (read : ofValue set.toValue = .ok again) :
    ∀ filter ∈ set.filters, filter.operator.HasShortCount := by
  obtain ⟨filters, readFilters, -⟩ := map_eq_ok.mp read
  rcases optional_eq_ok readFilters with ⟨missing, -⟩ | ⟨value, found, readItems⟩
  · cases missing
  · obtain rfl := Option.some.inj found
    intro filter member
    obtain ⟨again, readFilter⟩ := exists_of_readItems readItems _ (List.mem_map_of_mem member)
    exact Filter.hasShortCount_of_ofValue readFilter

theorem SortCriterion.ofValue_toValue (criterion : SortCriterion) :
    ofValue criterion.toValue = .ok criterion := by
  have plain : Text.holdsHalf criterion.direction.name = false := by
    cases criterion.direction <;> decide
  have found : Direction.ofName? criterion.direction.name = some criterion.direction := by
    cases criterion.direction <;> rfl
  rw [toValue, ofValue, record, ok_bind, required_ok rfl (text_text criterion.property),
    optional_ok rfl (memberOf_text plain found)]
  rfl

theorem SortOrder.ofValue_toValue (order : SortOrder) : ofValue order.toValue = .ok order := by
  have found := items_map_self fun criterion (_ : criterion ∈ order.criteria) =>
    criterion.ofValue_toValue
  rw [toValue, ofValue, record, ok_bind, optional_ok rfl found]
  rfl

theorem ColumnSet.ofValue_toValue {set : ColumnSet}
    (settled : ∀ column ∈ set.columns, column.IsSettled) : ofValue set.toValue = .ok set := by
  have found := items_map_self fun column member => Column.ofValue_toValue (settled column member)
  rw [toValue, ofValue, record, ok_bind, optional_ok rfl found]
  rfl

theorem Grouping.ofValue_toValue (grouping : Grouping) :
    ofValue grouping.toValue = .ok grouping := by
  rw [toValue, ofValue, record, ok_bind, optional_ok rfl (RawRow.nullable_texts grouping.property),
    optional_ok rfl (truth_bool grouping.collapsed)]
  rfl

theorem Highlighting.ofValue_toValue (highlighting : Highlighting) :
    ofValue highlighting.toValue = .ok highlighting := by
  have found := items_map_self fun property (_ : property ∈ highlighting.properties) =>
    text_text property
  rw [toValue, ofValue, record, ok_bind, optional_ok rfl (memberOf_text
    (holdsHalf_mode highlighting.mode) (HighlightMode.ofName?_name highlighting.mode)),
    optional_ok rfl found]
  rfl

/-! ### Queries -/

namespace Query

/-- Whether every day count of the query fits into a code. -/
def HasShortCounts (query : Query) : Prop :=
  ∀ filter ∈ query.filters.filters, filter.operator.HasShortCount

/-- The query that a written query is read as. -/
def reread (query : Query) : Query :=
  query.withFilters ⟨query.filters.filters.map Filter.reread⟩

theorem counted_eq_ok {outcome : Checked Query} {query : Query} :
    counted outcome = .ok query ↔ outcome = .ok query := by
  unfold counted
  split
  · exact ⟨nofun, nofun⟩
  · rfl

/-- A query with short day counts is read back with its filters in their normal forms. -/
theorem ofDocument_toValue {query : Query}
    (settled : ∀ column ∈ query.columns.columns, column.IsSettled) (short : query.HasShortCounts) :
    ofDocument query.toValue = .ok query.reread := by
  refine counted_eq_ok.mpr ?_
  rw [toValue, ofValue, record, ok_bind,
    optional_ok rfl (RawRow.nullable_integers query.id), optional_ok rfl (text_text query.name),
    optional_ok rfl (RawRow.nullable_integers query.userId),
    optional_ok rfl (RawRow.nullable_integers query.projectId),
    optional_ok rfl (memberOf_text (holdsHalf_visibility query.visibility)
      (Visibility.ofName?_name query.visibility)),
    optional_ok rfl (truth_bool query.starred),
    optional_ok rfl (memberOf_text (holdsHalf_display query.display)
      (Representation.ofName?_name query.display)),
    optional_ok rfl (FilterSet.ofValue_toValue short),
    optional_ok rfl (SortOrder.ofValue_toValue query.sorts),
    optional_ok rfl (ColumnSet.ofValue_toValue settled),
    optional_ok rfl (Grouping.ofValue_toValue query.grouping),
    optional_ok rfl (Highlighting.ofValue_toValue query.highlighting),
    optional_ok rfl (memberOf_text (holdsHalf_zoom query.zoom) (ZoomLevel.ofName?_name query.zoom)),
    optional_ok rfl (truth_bool query.showTimeline),
    optional_ok rfl (truth_bool query.includeSubprojects),
    optional_ok rfl (truth_bool query.showHierarchies),
    optional_ok rfl (truth_bool query.showSums)]
  rfl

/-- The filters and columns of a query that is read. -/
theorem exists_parts_of_ofValue {value : Value} {query : Query} (read : ofValue value = .ok query) :
    ∃ fields, record value = .ok fields ∧
      optional fields "filters" .empty FilterSet.ofValue = .ok query.filters ∧
      optional fields "columns" .standard ColumnSet.ofValue = .ok query.columns := by
  obtain ⟨fields, isRecord, readQuery⟩ := bind_eq_ok.mp read
  obtain ⟨_, _, upToHierarchies, -, rfl⟩ := both_eq_ok readQuery
  obtain ⟨_, _, upToSubprojects, -, rfl⟩ := both_eq_ok upToHierarchies
  obtain ⟨_, _, upToTimeline, -, rfl⟩ := both_eq_ok upToSubprojects
  obtain ⟨_, _, upToZoom, -, rfl⟩ := both_eq_ok upToTimeline
  obtain ⟨_, _, upToHighlighting, -, rfl⟩ := both_eq_ok upToZoom
  obtain ⟨_, _, upToGrouping, -, rfl⟩ := both_eq_ok upToHighlighting
  obtain ⟨_, _, upToColumns, -, rfl⟩ := both_eq_ok upToGrouping
  obtain ⟨_, columns, upToSorts, readColumns, rfl⟩ := both_eq_ok upToColumns
  obtain ⟨_, _, upToFilters, -, rfl⟩ := both_eq_ok upToSorts
  obtain ⟨_, filters, upToDisplay, readFilters, rfl⟩ := both_eq_ok upToFilters
  obtain ⟨_, _, upToStarred, -, rfl⟩ := both_eq_ok upToDisplay
  obtain ⟨_, _, upToVisibility, -, rfl⟩ := both_eq_ok upToStarred
  obtain ⟨_, _, upToProject, -, rfl⟩ := both_eq_ok upToVisibility
  obtain ⟨_, _, upToUser, -, rfl⟩ := both_eq_ok upToProject
  obtain ⟨_, _, upToName, -, rfl⟩ := both_eq_ok upToUser
  obtain ⟨_, _, upToId, -, rfl⟩ := both_eq_ok upToName
  obtain ⟨_, -, rfl⟩ := map_eq_ok.mp upToId
  exact ⟨fields, isRecord, readFilters, readColumns⟩

/-- A query with a longer day count is not read back. -/
theorem hasShortCounts_of_ofDocument {query again : Query}
    (read : ofDocument query.toValue = .ok again) : query.HasShortCounts := by
  obtain ⟨fields, isRecord, readFilters, -⟩ :=
    exists_parts_of_ofValue (counted_eq_ok.mp read)
  obtain rfl := Except.ok.inj isRecord
  rcases optional_eq_ok readFilters with ⟨missing, -⟩ | ⟨value, found, readSet⟩
  · cases missing
  · obtain rfl := Option.some.inj found
    exact FilterSet.hasShortCounts_of_ofValue readSet

end Query

end WorkQuery
