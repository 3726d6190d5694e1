/-
This file proves that a request which changes a saved query changes what its body gives and nothing
else (`patches_of_updated`). The row is read as a whole query, changed and written again, so a part
that is not given survives because it is written as it was read: names are found again, and filters
have settled when they were stored. A part that is given is stored as it would be stored in a new
row (`storesAlike_of_drafted`).
-/

import WorkQuery.Proofs.SavedRun
import WorkQuery.Proofs.SettledFilters
import WorkQuery.Proofs.WellFormedRows

namespace WorkQuery

open CompactForm Json Number Schema

/-- A member is the same in two objects with the same names if their values under its name are. -/
theorem Json.Fields.get?_congr {name : String} {left right : Fields}
    (alike : List.Forall₂ (fun first second =>
      first.1 = second.1 ∧ (first.1 = name → first.2 = second.2)) left right) :
    left.get? name = right.get? name := by
  induction alike with
  | nil => rfl
  | @cons first second _ _ same _ inductionHypothesis =>
    obtain ⟨names, values⟩ := same
    unfold get? at inductionHypothesis ⊢
    rw [List.find?_cons, List.find?_cons, ← names]
    cases named : first.1 == name with
    | true => exact congrArg some (values (beq_iff_eq.mp named))
    | false => exact inductionHypothesis

namespace Service

variable {state : State}

/-! ### What a body gives -/

/-- Two bodies give the same for a name, and give something. -/
def GivesAlike (fields draft : Fields) (name : String) : Prop :=
  ∃ value, given? fields name = some value ∧ given? draft name = some value

section Alike

variable {Part : Type} {read : Value → Checked Part} {fields draft : Fields} {name : String}
  {part : Option Part}

/-- What two bodies give alike is read as the same part. -/
theorem Given.exists_of_alike {other : Option Part} (alike : GivesAlike fields draft name)
    (reads : Given read (given? fields name) part)
    (others : Given read (given? draft name) other) :
    ∃ found, part = some found ∧ other = some found := by
  obtain ⟨value, given, givenDraft⟩ := alike
  rw [given] at reads
  rw [givenDraft] at others
  obtain ⟨found, rfl, -⟩ := reads.exists_of_some
  exact ⟨found, rfl, others.unique reads⟩

theorem Given.eq_some_of_alike {fallback drafted : Part} (alike : GivesAlike fields draft name)
    (reads : Given read (given? fields name) part)
    (drafts : GivenOr read (given? draft name) fallback drafted) : part = some drafted := by
  obtain ⟨other, others, rfl⟩ := drafts
  obtain ⟨found, rfl, rfl⟩ := reads.exists_of_alike alike others
  rfl

end Alike

/-! ### What is kept -/

/-- The names under which a body can bring a change. -/
def changeNames : List String :=
  ["name", "visibility", "display", "filters", "sortBy", "columns", "groupBy", "show_sums"]

/-- What a change leaves of the answer about a row: every member under whose name nothing is given,
and the timeline, unless it is turned on along with a chart over time. -/
structure Leaves (fields : Fields) (before after : Value) : Prop where
  member : ∀ name ≠ "show_timeline", (name ∈ changeNames → given? fields name = none) →
    after.member? name = before.member? name
  timeline : after.member? "show_timeline" = before.member? "show_timeline" ∨
    (given? fields "display" = some (.text "gantt") ∧
      before.member? "show_timeline" = some (.bool false) ∧
      after.member? "show_timeline" = some (.bool true))

theorem savedFilters_congr {filters others : FilterSet}
    (same : filtersValue filters = filtersValue others) :
    savedFilters filters = savedFilters others := by
  unfold savedFilters
  rw [same]

/-- A display that is given as a chart over time is given by its name. -/
theorem given_gantt {fields : Fields} {change : Change} (reads : change.Reads fields)
    (charts : change.display = some .gantt) : given? fields "display" = some (.text "gantt") := by
  have given := reads.display
  rw [charts] at given
  generalize given? fields "display" = value at given
  cases given with
  | part sound =>
    obtain ⟨name, rfl, named⟩ := memberOf_eq_ok sound
    have found := List.find?_some named
    rw [← beq_iff_eq.mp found]
    rfl

/-- The answers about a row before and after a change to the query that was read from it. The
filters of the changed query are written as they are read again, if they were not replaced. -/
theorem leaves_of_applied {fields : Fields} {change : Change} {old new : SavedRow}
    {query changed : Query} {filters : FilterSet} {before after : Value}
    (reads : change.Reads fields) (applied : change.Applied query changed)
    (readOld : old.toQuery = .ok query) (readNew : new.toQuery = .ok (changed.ofRow new filters))
    (id : new.id = old.id) (owner : new.userId = old.userId)
    (settled : change.filters = none → filtersValue filters = filtersValue query.filters)
    (shownBefore : rowAnswer old = .ok before) (shownAfter : rowAnswer new = .ok after) :
    Leaves fields before after := by
  unfold rowAnswer at shownBefore shownAfter
  rw [readOld] at shownBefore
  rw [readNew] at shownAfter
  obtain rfl := Except.ok.inj shownBefore
  obtain rfl := Except.ok.inj shownAfter
  have rest {Part : Type} (part : Query → Part) := congrArg part applied.rest
  constructor
  · intro name notTimeline kept
    -- What is not given is not brought by the change, so that the part is not replaced.
    have nothing {field : String} (listed : field ∈ changeNames) (same : field = name) :
        given? fields field = none := by
      subst same
      exact kept listed
    refine Fields.get?_congr ?_
    refine .cons ⟨rfl, fun _ => congrArg Value.int id⟩ ?_
    refine .cons ⟨rfl, fun _ => congrArg Value.int owner⟩ ?_
    refine .cons ⟨rfl, fun same => congrArg Value.text <| applied.name.eq_of_none <|
      reads.name.eq_none <| nothing (by decide) same⟩ ?_
    refine .cons ⟨rfl, fun _ => congrArg (Value.ofOption Value.int) (rest Query.projectId)⟩ ?_
    refine .cons ⟨rfl, fun same => congrArg (fun part => Value.text (Visibility.name part)) <|
      applied.visibility.eq_of_none <| reads.visibility.eq_none <| nothing (by decide) same⟩ ?_
    refine .cons ⟨rfl, fun _ => congrArg Value.bool (rest Query.starred)⟩ ?_
    refine .cons ⟨rfl, fun same => congrArg (fun part => Value.text (Representation.name part)) <|
      applied.display.eq_of_none <| reads.display.eq_none <| nothing (by decide) same⟩ ?_
    refine .cons ⟨rfl, fun same => savedFilters_congr <| settled <|
      reads.filters.eq_none <| nothing (by decide) same⟩ ?_
    refine .cons ⟨rfl, fun same => congrArg sortsValue <|
      applied.sorts.eq_of_none <| reads.sortBy.eq_none <| nothing (by decide) same⟩ ?_
    refine .cons ⟨rfl, fun same => congrArg (fun part => Value.texts (ColumnSet.names part)) <|
      applied.columns.eq_of_none <| reads.columns.eq_none <| nothing (by decide) same⟩ ?_
    refine .cons ⟨rfl, fun same =>
      congrArg (fun part => Value.ofOption Value.text (Grouping.property part)) <|
        applied.grouping.eq_of_none <| reads.groupBy.eq_none <| nothing (by decide) same⟩ ?_
    refine .cons ⟨rfl, fun _ =>
      congrArg (fun part => Value.text (HighlightMode.name (Highlighting.mode part)))
        (rest Query.highlighting)⟩ ?_
    refine .cons ⟨rfl, fun _ =>
      congrArg (fun part => Value.text (ZoomLevel.name part)) (rest Query.zoom)⟩ ?_
    refine .cons ⟨rfl, fun same => absurd same.symm notTimeline⟩ ?_
    refine .cons ⟨rfl, fun _ => congrArg Value.bool (rest Query.includeSubprojects)⟩ ?_
    refine .cons ⟨rfl, fun _ => congrArg Value.bool (rest Query.showHierarchies)⟩ ?_
    refine .cons ⟨rfl, fun same => congrArg Value.bool <|
      applied.showSums.eq_of_none <| reads.showSums.eq_none <| nothing (by decide) same⟩ .nil
  · change some (Value.bool changed.showTimeline) = some (Value.bool query.showTimeline) ∨
      _ ∧ some (Value.bool query.showTimeline) = _ ∧ some (Value.bool changed.showTimeline) = _
    rw [applied.showTimeline]
    cases query.showTimeline with
    | true => exact .inl rfl
    | false =>
      by_cases charts : change.display = some .gantt
      · refine .inr ⟨given_gantt reads charts, rfl, ?_⟩
        rw [charts]
        rfl
      · left
        rw [beq_eq_false_iff_ne.mpr charts]
        rfl

/-! ### What is stored -/

/-- Wherever two bodies give the same display, filters, sort order or columns, two rows keep the
same. -/
structure StoresAlike (fields draft : Fields) (row posted : SavedRow) : Prop where
  display : GivesAlike fields draft "display" → row.content.display = posted.content.display
  filters : GivesAlike fields draft "filters" → row.content.filters = posted.content.filters
  sorts : GivesAlike fields draft "sortBy" →
    row.content.sortCriteria = posted.content.sortCriteria
  columns : GivesAlike fields draft "columns" →
    row.content.columnNames = posted.content.columnNames

/-- What a change is given is stored as it is stored in a new row that is given the same. -/
theorem storesAlike_of_drafted {other : State} {fields draft : Fields} {change : Change}
    {row posted : SavedRow} {query changed : Query} {user : Int} (reads : change.Reads fields)
    (applied : change.Applied query changed) (keeps : row.content = .ofQuery changed)
    (drafted : draftedRow other user (some (.object draft)) = .ok posted) :
    StoresAlike fields draft row posted := by
  obtain ⟨_, made, stored, same, readDraft, readStored, rfl, -⟩ :=
    exists_query_of_draftedRow drafted
  obtain rfl := Option.some.inj same
  have drafts := Draft.reads_of_ofValue readDraft
  obtain ⟨filters, sorts, columns, readFilters, readSorts, isColumns, rfl⟩ :=
    Draft.exists_parts_of_toQuery readStored
  constructor <;> intro alike <;> rw [keeps]
  · have brought := reads.display.eq_some_of_alike alike drafts.display
    exact congrArg Representation.name (Except.ok.inj (applied.display.sound_of_some brought)).symm
  · have brought := reads.filters.eq_some_of_alike alike drafts.filters
    have readAlike := (applied.filters.sound_of_some brought).symm.trans readFilters
    exact congrArg filtersValue (Except.ok.inj readAlike)
  · have brought := reads.sortBy.eq_some_of_alike alike drafts.sortBy
    have readAlike := (applied.sorts.sound_of_some brought).symm.trans readSorts
    exact congrArg sortsValue (Except.ok.inj readAlike)
  · obtain ⟨names, brought, drafted⟩ := reads.columns.exists_of_alike alike drafts.columns
    have readAlike :=
      (applied.columns.sound_of_some brought).symm.trans (isColumns.sound_of_some drafted)
    exact congrArg ColumnSet.names (Except.ok.inj readAlike)

/-- An empty sort order is read as the standard one. -/
theorem standard_of_given {fields : Fields} {change : Change} {query changed : Query}
    (reads : change.Reads fields) (applied : change.Applied query changed)
    (empty : given? fields "sortBy" = some (.list [])) : changed.sorts = .standard := by
  have reads := reads.sortBy
  rw [empty] at reads
  obtain ⟨criteria, brought, readCriteria⟩ := reads.exists_of_some
  obtain rfl : [] = criteria := Except.ok.inj readCriteria
  have standard : sortsOf [] = .ok .standard := rfl
  exact Except.ok.inj ((applied.sorts.sound_of_some brought).symm.trans standard)

/-! ### Requests -/

/-- A reply that is given where queries are changed tells of the row that has been put in the place
of the old one. -/
theorem exists_changed_of_reply {user : Option Int} {request : Request} {written : String}
    {body : Option Value} {status : Nat} {value : Value}
    (replied : (answer state user request body (.updateQuery written)).reply =
      .ok (status, value)) :
    ∃ id row, user = some id ∧ changedRow state id written body = .ok row ∧
      rowAnswer row = .ok value ∧
      (answer state user request body (.updateQuery written)).saved = state.saved.put row := by
  cases user with
  | none => cases replied
  | some id =>
    change (store state (changedRow state id written body)).reply = _ at replied
    change ∃ owner row, _ ∧ _ ∧ _ ∧ (store state (changedRow state id written body)).saved = _
    cases made : changedRow state id written body with
    | error refusal =>
      rw [made] at replied
      cases replied
    | ok row =>
      rw [made] at replied
      exact ⟨id, row, rfl, made, (reply_unchanged.mp replied).1, rfl⟩

/-- A row that a request adds has been drafted from the body. -/
theorem exists_drafted_of_added {request : Request} {body : Option Value} {row : SavedRow}
    (opens : opened request = .ok (.createQuery, body))
    (added : (step state request).2.saved = state.saved ++ [row]) :
    ∃ user, draftedRow state user body = .ok row := by
  rcases changes_step state request with same | ⟨endpoint, body', user, opens', -, changes⟩
  · have nothing : [row] = [] := List.append_right_eq_self.mp (added.symm.trans same)
    cases nothing
  · obtain ⟨rfl, rfl⟩ := Prod.mk.inj (Except.ok.inj (opens.symm.trans opens'))
    rw [added] at changes
    generalize rows : state.saved ++ [row] = later at changes
    cases changes with
    | added drafted =>
      obtain rfl := List.singleton_injective (List.append_cancel_left rows)
      exact ⟨user, drafted⟩

/-- How a request for a change is carried out: a query is read from the row that it names, and the
row is updated to that query with the change applied. -/
structure CarriesOut (state : State) (request : Request) (change : Change) (old : SavedRow)
    (query changed : Query) (after : Value) : Prop where
  member : old ∈ state.saved
  readOld : old.toQuery = .ok query
  apply : change.apply query = .ok changed
  shown : rowAnswer (old.update changed) = .ok after
  content : (step state request).1.content = .json after
  saved : (step state request).2.saved = state.saved.put (old.update changed)

/-- A request for a change that is answered has a body, comes from the owner of the row that it
names, and is carried out. -/
theorem exists_carriesOut_of_updated {request : Request} {written : String} {body : Option Value}
    (opens : opened request = .ok (.updateQuery written, body))
    (updated : (step state request).1.status = 200) :
    ∃ fields change old query changed after, body = some (.object fields) ∧
      Change.ofValue (.object fields) = .ok change ∧ queryIdArgument written = .ok old.id ∧
      requester state request (.updateQuery written) = .ok (some old.userId) ∧
      CarriesOut state request change old query changed after := by
  obtain ⟨user, after, told, replied, content, saved⟩ :=
    exists_answer_of_success opens (updated.trans_lt (by decide))
  obtain ⟨owner, new, rfl, made, shown, put⟩ := exists_changed_of_reply replied
  obtain ⟨number, value, change, old, query, changed, readNumber, rfl, readChange, found, readOld,
    apply, rfl, -⟩ := exists_update_of_changedRow made
  obtain ⟨fields, rfl, -⟩ := Change.exists_reads readChange
  obtain ⟨member, rfl⟩ := owned_of_ownedRow found
  obtain rfl := id_of_ownedRow found
  exact ⟨fields, change, old, query, changed, after, rfl, readChange, readNumber, told,
    { member, readOld, apply, shown, content, saved := saved.trans put }⟩

/-- What is read from a row that is answered with: the parsed query that it keeps, with filters that
are read again. -/
theorem exists_read_of_rowAnswer {row : SavedRow} {query : Query} {answer : Value}
    (keeps : row.content = .ofQuery query) (parsed : query.IsParsed)
    (shown : rowAnswer row = .ok answer) :
    ∃ filters, parseFilters (filtersValue query.filters) = .ok filters ∧
      row.toQuery = .ok (query.ofRow row filters) := by
  obtain ⟨found, read, -⟩ := bind_eq_ok.mp shown
  have read := mapError_eq_ok.mp read
  rw [SavedRow.toQuery_ofQuery keeps parsed] at read ⊢
  obtain ⟨filters, readFilters, -⟩ := map_eq_ok.mp read
  exact ⟨filters, readFilters, map_eq_ok.mpr ⟨filters, readFilters, rfl⟩⟩

/-- What a request for a change makes of a row: the answers about it differ in what the body gives,
the other rows stay, and what is given is stored as a request that saves a query stores it. -/
structure Patches (state : State) (request : Request) (fields : Fields) (old new : SavedRow)
    (before after : Value) : Prop where
  member : old ∈ state.saved
  saved : (step state request).2.saved = state.saved.put new
  id : new.id = old.id
  others : ∀ row : SavedRow, row.id ≠ old.id →
    (row ∈ (step state request).2.saved ↔ row ∈ state.saved)
  shownBefore : rowAnswer old = .ok before
  shownAfter : rowAnswer new = .ok after
  content : (step state request).1.content = .json after
  leaves : Leaves fields before after
  stores : ∀ (other : State) (post : Request) (draft : Fields) (posted : SavedRow),
    opened post = .ok (.createQuery, some (.object draft)) →
    (step other post).2.saved = other.saved ++ [posted] → StoresAlike fields draft new posted
  standardSorts : given? fields "sortBy" = some (.list []) →
    new.content.sortCriteria = sortsValue .standard

/-- A request for a change that is answered comes from the owner of the row that it names, and
changes what its body gives and nothing else. -/
theorem patches_of_updated (reached : Reachable state.saved) {request : Request} {written : String}
    {body : Option Value} (opens : opened request = .ok (.updateQuery written, body))
    (updated : (step state request).1.status = 200) :
    ∃ fields old new before after, body = some (.object fields) ∧
      queryIdArgument written = .ok old.id ∧
      requester state request (.updateQuery written) = .ok (some old.userId) ∧
      Patches state request fields old new before after := by
  obtain ⟨fields, change, old, query, changed, after, rfl, readChange, readNumber, told, made⟩ :=
    exists_carriesOut_of_updated opens updated
  have reads := Change.reads_of_ofValue readChange
  have applied := Change.applied_of_apply made.apply
  -- What the old row keeps, what is read from it, and what is read from the new row.
  obtain ⟨kept, keeps, parsed⟩ :=
    ((isSoundTable_of_reachable reached).sound old made.member).keeps
  have parsedQuery := SavedRow.isParsed_of_toQuery ⟨kept, keeps, parsed⟩ made.readOld
  have parsedChanged := applied.isParsed (Change.holdsHalf_name readChange) parsedQuery
  obtain ⟨before, shownBefore, -⟩ := holdsHalf_rowAnswer made.readOld
  obtain ⟨again, readAgain, readOld⟩ := exists_read_of_rowAnswer keeps parsed shownBefore
  obtain ⟨later, readLater, readNew⟩ := exists_read_of_rowAnswer rfl parsedChanged made.shown
  have settled : change.filters = none → filtersValue later = filtersValue query.filters := by
    intro nothing
    rw [applied.filters.eq_of_none nothing] at readLater
    obtain rfl := Except.ok.inj (readOld.symm.trans made.readOld)
    exact filtersValue_settled parsed.filters readAgain readLater
  refine ⟨fields, old, old.update changed, before, after, rfl, readNumber, told, ?_⟩
  exact {
    member := made.member
    saved := made.saved
    id := rfl
    others := by
      intro row different
      rw [made.saved, mem_put_iff]
      refine ⟨?_, fun inside => .inl ⟨inside, different⟩⟩
      rintro (⟨inside, -⟩ | ⟨rfl, -⟩)
      · exact inside
      · exact absurd rfl different
    shownBefore
    shownAfter := made.shown
    content := made.content
    leaves := leaves_of_applied reads applied made.readOld readNew rfl rfl settled shownBefore
      made.shown
    stores := by
      intro other post draft posted opensPost added
      obtain ⟨poster, drafted⟩ := exists_drafted_of_added opensPost added
      exact storesAlike_of_drafted reads applied rfl drafted
    standardSorts := fun empty => congrArg sortsValue (standard_of_given reads applied empty) }

/-- The service after the user 1 has saved a query that others may see, with a filter and a sort
order. -/
def sharedService : State :=
  (step freshService (chartRequest "POST" "/queries" [("name", .text "Plan"),
    ("visibility", .text "public"), ("sortBy", .list [.texts ["subject", "asc"]]),
    ("filters", .list [.object [("due_date",
      .object [("operator", .text "<t+"), ("values", .list [.int 7])])]])])).2

/-- What the user 1 gives to have the query shown as a chart in the standard order. -/
def chartFields : Fields :=
  [("display", .text "gantt"), ("visibility", .null), ("sortBy", .list [])]

/-- The query becomes a chart in the standard order; its filters and its visibility stay. -/
theorem patches_of_updated_chart :
    ∃ old new before after,
      Patches sharedService (chartRequest "PATCH" "/queries/1" chartFields) chartFields old new
        before after ∧
      after.member? "filters" = before.member? "filters" ∧
      after.member? "visibility" = before.member? "visibility" ∧
      new.content.sortCriteria = .list [.texts ["id", "desc"]] := by
  have reached : Reachable sharedService.saved := .step .empty _
  have opens : opened (chartRequest "PATCH" "/queries/1" chartFields) =
      .ok (.updateQuery "1", some (.object chartFields)) := rfl
  have updated : (step sharedService (chartRequest "PATCH" "/queries/1" chartFields)).1.status =
      200 := by decide +kernel
  obtain ⟨_, old, new, before, after, same, -, -, patches⟩ :=
    patches_of_updated reached opens updated
  obtain rfl := Value.object.inj (Option.some.inj same)
  exact ⟨old, new, before, after, patches,
    patches.leaves.member "filters" (by decide) fun _ => rfl,
    patches.leaves.member "visibility" (by decide) fun _ => rfl, patches.standardSorts rfl⟩

end Service

end WorkQuery
