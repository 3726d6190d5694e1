/-
This file says which queries mean the same after they have been written as documents and read
again. A query that asks for the requester by its operator alone, with some other value beside it,
is accepted and run as such, but its document says no more than that the property equals that value
(`Filter.LosesRequester`). Nothing else is lost (`keeps_meaning_iff`). That it is lost shows in the
length of the conditions: for the requesters 0 and 10 those of the query differ in one place more
for every such filter than those of the query that is read again.
-/

import WorkQuery.Proofs.FilterCondition
import WorkQuery.Proofs.ValidatedQuery

namespace WorkQuery

open Json Number Schema Sql

/-! ### Normal forms -/

namespace Filter

/-- Whether the filter loses the requester when it is written: its operator asks for the requester,
on a property that has a column, but another value than the placeholder stands beside it. -/
def LosesRequester (filter : Filter) : Prop :=
  filter.operator = .fixed .currentUserEquals ∧ (filterColumn? filter.property).isSome ∧
    filter.value ≠ .currentUser

theorem property_reread (filter : Filter) : filter.reread.property = filter.property := by
  unfold reread
  split <;> rfl

theorem reread_of_losesRequester {filter : Filter} (loses : filter.LosesRequester) :
    filter.reread = .equals filter.property filter.value := by
  obtain ⟨asks, -, impersonal⟩ := loses
  rw [reread, if_neg fun both => impersonal both.2, asks]
  rfl

/-- Plain equality with the placeholder has the same condition as equality with the requester. -/
theorem condition?_equals_currentUser (property : String) (user : Option Int) :
    condition? user (.equals property .currentUser) = condition? user (.currentUser property) := by
  have same (column : Reference) :
      operatorCondition? column (.fixed .equals) .currentUser user =
        operatorCondition? column (.fixed .currentUserEquals) .currentUser user := by
    cases user <;> rfl
  rw [condition?_eq, condition?_eq]
  change (if (property != "" && true) = true then _ else _) =
    (if (property != "" && true) = true then _ else _)
  simp only [equals, currentUser, same]

/-- A filter that does not lose the requester has the condition of its normal form. -/
theorem condition?_reread {filter : Filter} (keeps : ¬filter.LosesRequester)
    (user : Option Int) : condition? user filter.reread = condition? user filter := by
  by_cases normal : filter.reread = filter
  · rw [normal]
  · rw [reread_eq_self_iff, not_and_or] at normal
    rcases normal with personal | plain
    · obtain ⟨asks, impersonal⟩ := Classical.not_imp.mp personal
      have unmapped : filterColumn? filter.property = none := by
        rw [← Option.not_isSome_iff_eq_none]
        exact fun mapped => keeps ⟨asks, mapped, impersonal⟩
      rw [condition?_of_unmapped unmapped, condition?_of_unmapped]
      rw [property_reread, unmapped]
    · obtain ⟨isEquals, placeholder⟩ := Classical.not_imp.mp plain
      obtain ⟨property, operator, value⟩ := filter
      obtain rfl : operator = .fixed .equals := isEquals
      obtain rfl : value = .currentUser := not_not.mp placeholder
      exact (condition?_equals_currentUser property user).symm

theorem exists_condition?_of_losesRequester {filter : Filter} (loses : filter.LosesRequester) :
    ∃ column, ∀ id, condition? (some id) filter = some (.compare column .equal (.integer id)) := by
  obtain ⟨asks, mapped, -⟩ := loses
  obtain ⟨column, found⟩ := Option.isSome_iff_exists.mp mapped
  have named : filter.property ≠ "" := by
    intro empty
    rw [empty] at found
    cases found
  have valid : filter.isValid = true := by
    rw [isValid, asks, bne_iff_ne.mpr named]
    rfl
  refine ⟨column, fun id => ?_⟩
  rw [condition?_eq, if_pos valid, found, asks]
  rfl

end Filter

/-! ### Lengths -/

namespace Sql

theorem length_intercalate {separator : String} {texts : List String} :
    (separator.intercalate texts).length =
      (texts.map fun text => text.length + separator.length).sum - separator.length := by
  cases texts with
  | nil => simp
  | cons text texts =>
    induction texts generalizing text with
    | nil => simp
    | cons next texts inductionHypothesis =>
      rw [String.intercalate_cons_cons, String.length_append, String.length_append,
        inductionHypothesis]
      simp only [List.map_cons, List.sum_cons]
      omega

/-- The room that the condition of a filter takes in a text, with what separates it from the
next. -/
def room (user : Option Int) (filter : Filter) : Nat :=
  ((condition? user filter).map fun condition => condition.render.length + 5).getD 0

theorem length_whereText (user : Option Int) (filters : FilterSet) :
    (whereText (filterConditions user filters)).length =
      (filters.filters.map (room user)).sum - 5 := by
  have separator : " AND ".length = 5 := by decide
  rw [whereText, length_intercalate, separator, filterConditions_eq, List.map_map]
  congr 1
  induction filters.filters with
  | nil => rfl
  | cons filter filters inductionHypothesis =>
    rw [List.map_cons, List.sum_cons, ← inductionHypothesis, room]
    cases found : condition? user filter with
    | none =>
      rw [List.filterMap_cons_none found]
      exact (Nat.zero_add _).symm
    | some condition =>
      rw [List.filterMap_cons_some found]
      rfl

theorem room_of_losesRequester {filter : Filter} (loses : filter.LosesRequester) :
    5 < room (some 0) filter ∧ room (some 0) filter < room (some 10) filter := by
  obtain ⟨column, found⟩ := Filter.exists_condition?_of_losesRequester loses
  have zero : (integerText 0).length = 1 := by decide
  have ten : (integerText 10).length = 2 := by decide
  rw [room, room, found, found]
  simp only [Option.map_some, Option.getD_some, Condition.render, Literal.render,
    String.length_append, zero, ten]
  omega

/-- For the requester 10 the conditions of a query take at least as much more room than for the
requester 0 as those of the query that is read again, and more if a filter loses the requester. -/
theorem room_reread_le (filter : Filter) :
    room (some 10) filter.reread + room (some 0) filter ≤
      room (some 0) filter.reread + room (some 10) filter ∧
    (filter.LosesRequester → room (some 10) filter.reread + room (some 0) filter <
      room (some 0) filter.reread + room (some 10) filter) := by
  by_cases loses : filter.LosesRequester
  · have same : room (some 10) filter.reread = room (some 0) filter.reread := by
      rw [Filter.reread_of_losesRequester loses, room, room]
      rw [condition?_congr (by exact nofun) (by exact loses.2.2) (some 10) (some 0)]
    have more := (room_of_losesRequester loses).2
    exact ⟨by omega, fun _ => by omega⟩
  · have same (user : Option Int) : room user filter.reread = room user filter := by
      rw [room, room, Filter.condition?_reread loses]
    rw [same, same]
    exact ⟨by omega, fun contrary => absurd contrary loses⟩

end Sql

namespace Query

/-- If one of its filters loses the requester, the query that is read again has another text for
the requester 0 or for the requester 10. -/
theorem whereText_ne_of_losesRequester {query : Query} {filter : Filter}
    (member : filter ∈ query.filters.filters) (loses : filter.LosesRequester) :
    ∃ id, (select query.reread (some id)).whereText ≠ (select query (some id)).whereText := by
  by_contra same
  have length (id : Int) :
      (query.filters.filters.map fun filter => room (some id) filter.reread).sum - 5 =
        (query.filters.filters.map (room (some id))).sum - 5 := by
    have lengths := congrArg String.length (not_not.mp (not_exists.mp same id))
    rw [Selection.whereText, Selection.whereText, select, select, length_whereText,
      length_whereText, reread, withFilters, List.map_map] at lengths
    exact lengths
  have differ := List.sum_lt_sum _ _ (fun filter (_ : filter ∈ query.filters.filters) =>
    (room_reread_le filter).1) ⟨filter, member, (room_reread_le filter).2 loses⟩
  rw [List.sum_map_add, List.sum_map_add] at differ
  obtain ⟨some0, more⟩ := room_of_losesRequester loses
  have first := List.le_sum_of_mem (List.mem_map_of_mem (f := room (some 0)) member)
  have second := List.le_sum_of_mem (List.mem_map_of_mem (f := room (some 10)) member)
  have zero := length 0
  have ten := length 10
  omega

theorem conditions_reread {query : Query}
    (keep : ∀ filter ∈ query.filters.filters, ¬filter.LosesRequester) (user : Option Int) :
    (select query.reread user).conditions = (select query user).conditions := by
  change filterConditions user ⟨query.filters.filters.map Filter.reread⟩ =
    filterConditions user query.filters
  rw [filterConditions_eq, filterConditions_eq, List.filterMap_map]
  exact List.filterMap_congr fun filter member => Filter.condition?_reread (keep filter member) user

/-- An accepted query is accepted again after it has been written, and means the same for every
requester and for none, exactly if its day counts fit into their codes and none of its filters loses
the requester. -/
theorem keeps_meaning_iff {document : Value} {query : Query}
    (read : ofDocument document = .ok query) :
    (∃ again, ofDocument query.toValue = .ok again ∧ ∀ user,
        (select again user).whereText = (select query user).whereText ∧
        (select again user).orderText = (select query user).orderText) ↔
      query.HasShortCounts ∧ ∀ filter ∈ query.filters.filters, ¬filter.LosesRequester := by
  have settled : ∀ column ∈ query.columns.columns, column.IsSettled := fun column member =>
    Column.isSettled_of_made (isMade_of_ofDocument read column member)
  constructor
  · rintro ⟨again, readAgain, same⟩
    have short := hasShortCounts_of_ofDocument readAgain
    obtain rfl := Except.ok.inj ((ofDocument_toValue settled short).symm.trans readAgain)
    refine ⟨short, fun filter member loses => ?_⟩
    obtain ⟨id, differs⟩ := whereText_ne_of_losesRequester member loses
    exact differs (same (some id)).1
  · rintro ⟨short, keep⟩
    refine ⟨query.reread, ofDocument_toValue settled short, fun user => ⟨?_, rfl⟩⟩
    rw [Selection.whereText, Selection.whereText, conditions_reread keep]

/-- A document that asks for the requester by an operator and names another user beside it. -/
def strayRequester : Value :=
  .object [("filters", .object [("filters", .list [.object [("attribute", .text "assigned_to_id"),
    ("operator", .object [("kind", .text "current_user_equals")]),
    ("value", .object [("kind", .text "id"), ("value", .int 7)])]])])]

/-- The query that the document is read as. -/
def strayQuery : Query :=
  { plain "Unnamed query" with
    filters := ⟨[⟨"assigned_to_id", .fixed .currentUserEquals, .id 7⟩]⟩ }

theorem keeps_meaning_iff_stray :
    ofDocument strayRequester = .ok strayQuery ∧
    ¬∃ again, ofDocument strayQuery.toValue = .ok again ∧ ∀ user,
      (select again user).whereText = (select strayQuery user).whereText ∧
      (select again user).orderText = (select strayQuery user).orderText := by
  have read : ofDocument strayRequester = .ok strayQuery := eq_ok_of_toOption (by decide +kernel)
  refine ⟨read, fun kept => ?_⟩
  have keep := ((keeps_meaning_iff read).mp kept).2 _ (List.mem_singleton_self _)
  exact keep ⟨rfl, rfl, nofun⟩

/-- The document is accepted, but what it asks for is not what is asked for when it has been written
and read again. -/
theorem strayRequester_not_kept :
    ¬∀ document query, ofDocument document = .ok query →
      ∃ again, ofDocument query.toValue = .ok again ∧ ∀ user,
        (select again user).whereText = (select query user).whereText ∧
        (select again user).orderText = (select query user).orderText := by
  intro all
  obtain ⟨again, readAgain, same⟩ :=
    all strayRequester strayQuery (eq_ok_of_toOption (by decide +kernel))
  have normal : ofDocument strayQuery.toValue = .ok (plain "Unnamed query" |>.withFilters
      ⟨[.equals "assigned_to_id" (.id 7)]⟩) := eq_ok_of_toOption (by decide +kernel)
  obtain rfl := Except.ok.inj (normal.symm.trans readAgain)
  exact absurd (same (some 5)).1 (by decide +kernel)

end Query

end WorkQuery
