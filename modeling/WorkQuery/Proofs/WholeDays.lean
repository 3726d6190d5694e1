/-
This file says which rows the filters on days select. A filter gives a day as a text, and the text
is compared with what the tables keep of a property. Of a start or a due date they keep the text of
its day, so that the filters mean whole days. Of a creation or an update they keep the text of a
moment, which comes after the text of its own day. So the filters take the day of the moment for a
later one than the same day in the filter, and answer wrongly for the last day that they name and
for no other (`selected_days_iff`).
-/

import WorkQuery.Proofs.CompactRoundTrip
import WorkQuery.Proofs.DayOrder
import WorkQuery.Proofs.SelectedPage

namespace WorkQuery

open Calendar CompactForm Json Number Sql

/-! ### Properties and questions -/

/-- The properties whose values are days. -/
inductive DayProperty
  | startDate
  | dueDate
  | createdAt
  | updatedAt

namespace DayProperty

/-- The name of the property. -/
def name : DayProperty → String
  | startDate => "start_date"
  | dueDate => "due_date"
  | createdAt => "created_at"
  | updatedAt => "updated_at"

/-- The field of work packages that holds the property. -/
def field : DayProperty → Field
  | startDate => .startDate
  | dueDate => .dueDate
  | createdAt => .createdAt
  | updatedAt => .updatedAt

/-- The day of the property, if the work package has one. -/
def day? (item : WorkPackage) : DayProperty → Option Date
  | startDate => item.startDate
  | dueDate => item.dueDate
  | createdAt => some item.createdAt.date
  | updatedAt => some item.updatedAt.date

/-- Whether the field holds a moment of the day. -/
def IsMoment (property : DayProperty) : Prop :=
  property = .createdAt ∨ property = .updatedAt

end DayProperty

/-- A question about a day: whether it lies within two others, is another, lies not after another,
or lies after another. -/
inductive DayQuestion
  | within (first last : Date) (ordered : first ≤ last)
  | on (day : Date)
  | upTo (day : Date)
  | after (day : Date)

namespace DayQuestion

/-- The code of the operator that asks the question. -/
def code : DayQuestion → String
  | within .. => "<>d"
  | on _ => "="
  | upTo _ => "<="
  | after _ => ">"

/-- The days that the question names, in order. -/
def days : DayQuestion → List Date
  | within first last _ => [first, last]
  | on day => [day]
  | upTo day => [day]
  | after day => [day]

/-- The last day that the question names. -/
def lastDay : DayQuestion → Date
  | within _ last _ => last
  | on day => day
  | upTo day => day
  | after day => day

/-- Whether the answer for a day is yes. -/
def Admits (day : Date) : DayQuestion → Prop
  | within first last _ => first ≤ day ∧ day ≤ last
  | on other => day = other
  | upTo last => day ≤ last
  | after before => before < day

/-- The question about a property, in the compact form of filters. -/
def written (question : DayQuestion) (property : DayProperty) : Value :=
  .list [.object [(property.name, .object [("operator", .text question.code),
    ("values", .texts (question.days.map Date.text))])]]

/-! ### Filters -/

/-- The operator of the filter that asks the question. -/
def operator : DayQuestion → FixedKind
  | within .. => .between
  | on _ => .equals
  | upTo _ => .lessOrEqual
  | after _ => .greaterThan

/-- The value of the filter that asks the question. -/
def value : DayQuestion → FilterValue
  | within first last _ => .dates first last
  | on day => .date day
  | upTo day => .date day
  | after day => .date day

/-- The filter that asks the question about a property. -/
def filter (question : DayQuestion) (property : DayProperty) : Filter :=
  ⟨property.name, .fixed question.operator, question.value⟩

variable (question : DayQuestion) (property : DayProperty)

theorem effectiveClass_day (kind : FixedKind) :
    effectiveClass property.name (.fixed kind) = .day := by
  cases property <;> rfl

theorem holds_day {kind : FixedKind} (noRange : kind ≠ .between) (day : Date) :
    Holds property.name (.fixed kind) (.date day) :=
  .words (fun same => noRange (Operator.fixed.inj same))
    (.day (effectiveClass_day property kind) (List.cons_ne_nil day.text []) day)

theorem typedValue_day {kind : FixedKind} (noRange : kind ≠ .between)
    (noRequester : kind ≠ .currentUserEquals) (day : Date) :
    typedValue property.name (.fixed kind) ([day.text].map .text) = .ok (.date day) := by
  rw [typedValue_texts _ fun same => noRange (Operator.fixed.inj same),
    typedWords_singleValue (effectiveClass_day property kind) nofun nofun
      fun same => noRequester (Operator.fixed.inj same), singleValue_day, parseDate_text]
  rfl

theorem isRead_filter : IsRead (question.filter property) := by
  have holds : Holds property.name (.fixed question.operator) question.value := by
    cases question with
    | within first last => exact .range rfl first last
    | on day | upTo day | after day => exact holds_day property (by nofun) day
  refine ⟨nofun, ?_, fun _ => ?_, holds⟩ <;> cases question <;> exact nofun

/-- The written question is read as its filter. -/
theorem parseFilters_written :
    parseFilters (question.written property) = .ok ⟨[question.filter property]⟩ := by
  have form : question.written property = filtersValue ⟨[question.filter property]⟩ := by
    cases question <;> rfl
  have typed : typedValue property.name (.fixed question.operator)
      ((valueTexts question.value).map .text) = .ok question.value := by
    cases question with
    | within first last => exact typedValue_dates property.name first last
    | on day | upTo day | after day => exact typedValue_day property (by nofun) (by nofun) day
  have read : parseMember (question.filter property).property
      (memberBody (question.filter property)) = .ok (question.filter property) := by
    rw [parseMember_memberBody (question.isRead_filter property)]
    exact congrArg (Except.map _) typed
  rw [form, parseFilters_filtersValue, List.mapM_cons, read]
  rfl

/-! ### Conditions -/

/-- The condition of the filter on a column. -/
def condition (column : Reference) : DayQuestion → Condition
  | within first last _ => .between column first last
  | on day => .compare column .equal (.text day.text)
  | upTo day => .compare column .lessOrEqual (.text day.text)
  | after day => .compare column .greater (.text day.text)

theorem filterConditions_filter (user : Option Int) :
    filterConditions user ⟨[question.filter property]⟩ =
      [question.condition (.item property.field)] := by
  have column : filterColumn? property.name = some (.item property.field) := by
    cases property <;> rfl
  have valid : (question.filter property).isValid = true := by
    cases property <;> cases question <;> rfl
  have single : condition? user (question.filter property) =
      some (question.condition (.item property.field)) := by
    rw [condition?_eq, if_pos valid]
    change (filterColumn? property.name).bind _ = _
    rw [column]
    cases question <;> rfl
  rw [filterConditions_eq, List.filterMap_cons_some single, List.filterMap_nil]

end DayQuestion

theorem isBlank_eq_false_of_isDigit {digit : Char} (isDigit : digit.isDigit = true) :
    Stored.isBlank digit = false := by
  have range := toNat_of_isDigit isDigit
  have blank : digit ≠ ' ' := ne_of_isDigit isDigit (by decide)
  unfold Stored.isBlank
  rw [beq_false_of_ne blank, Bool.false_or, Bool.and_eq_false_iff, decide_eq_false_iff_not,
    decide_eq_false_iff_not]
  omega

theorem splitSign_day (day : Date) :
    splitSign day.text.toList = (false, day.text.toList) := by
  obtain ⟨first, digits, same⟩ := List.exists_cons_of_ne_nil (paddedText_ne_nil 4 day.year)
  rw [Date.toList_text, same, List.cons_append]
  exact splitSign_of_isDigit (isDigit_of_mem_paddedText (same ▸ List.mem_cons_self)) _

/-- After the year there stands neither a point nor an exponent. -/
theorem numeral?_day (day : Date) : numeral? day.text.toList = none := by
  have year : ∀ digit ∈ (paddedText 4 day.year).toList, digit.isDigit :=
    fun _ => isDigit_of_mem_paddedText
  unfold numeral?
  rw [Date.toList_text, takeWhile_isDigit year rfl, dropWhile_isDigit year rfl]
  dsimp only
  split
  · rename_i point
    exact absurd (List.cons.inj point).1 (by decide)
  · split <;> rfl

/-- The text of a day does not read as a number. -/
theorem numberOfText?_day (day : Date) : Stored.numberOfText? day.text = none := by
  have trimmed : Text.trim Stored.isBlank day.text.toList = day.text.toList := by
    refine trim_eq_self fun character member => ?_
    rcases Date.hyphen_or_isDigit_of_mem_text member with rfl | isDigit
    · rfl
    · exact isBlank_eq_false_of_isDigit isDigit
  unfold Stored.numberOfText?
  rw [trimmed, splitSign_day]
  dsimp only
  rw [numeral?_day]
  rfl

theorem literalFor_day (property : DayProperty) (day : Date) :
    literalFor (.item property.field) (.text day.text) = .text day.text := by
  have number : literalFor (.item property.field) (.text day.text) =
      (Stored.numberOfText? day.text).getD (.text day.text) := by
    cases property <;> rfl
  rw [number, numberOfText?_day, Option.getD_none]

/-- The text that the tables keep of a property. -/
def DayProperty.text? (item : WorkPackage) : DayProperty → Option String
  | startDate => item.startDate.map Date.text
  | dueDate => item.dueDate.map Date.text
  | createdAt => some item.createdAt.storedText
  | updatedAt => some item.updatedAt.storedText

namespace DayProperty

theorem text?_of_not_isMoment {property : DayProperty} (isDay : ¬property.IsMoment)
    (item : WorkPackage) : property.text? item = (property.day? item).map Date.text := by
  cases property with
  | startDate | dueDate => rfl
  | createdAt => exact absurd (.inl rfl) isDay
  | updatedAt => exact absurd (.inr rfl) isDay

theorem exists_moment {property : DayProperty} (isMoment : property.IsMoment) (item : WorkPackage) :
    ∃ moment : Moment, property.text? item = some moment.storedText ∧
      property.day? item = some moment.date := by
  obtain rfl | rfl := isMoment
  · exact ⟨item.createdAt, rfl, rfl⟩
  · exact ⟨item.updatedAt, rfl, rfl⟩

end DayProperty

theorem compareCell_day (row : JoinedRow) (property : DayProperty) (comparison : Comparison)
    (day : Date) :
    compareCell row (.item property.field) comparison
        (literalFor (.item property.field) (.text day.text)) =
      (property.text? row.item).map fun text => comparison.accepts (compare text day.text) := by
  rw [literalFor_day]
  cases property with
  | startDate =>
    unfold compareCell DayProperty.text?
    change storedCell? (.ofOption .day row.item.startDate) >>= _ = _
    cases row.item.startDate <;> rfl
  | dueDate =>
    unfold compareCell DayProperty.text?
    change storedCell? (.ofOption .day row.item.dueDate) >>= _ = _
    cases row.item.dueDate <;> rfl
  | createdAt | updatedAt => rfl

/-! ### Answers -/

namespace DayQuestion

variable (question : DayQuestion) (property : DayProperty)

/-- Whether the answer is yes for what compares with the named days in some way. -/
def Accepts (order : Date → Ordering) : DayQuestion → Prop
  | within first last _ => order first ≠ .lt ∧ order last ≠ .gt
  | on day => order day = .eq
  | upTo day => order day ≠ .gt
  | after day => order day = .gt

/-- The condition of the filter compares the text in the tables with the texts of the days. -/
theorem selects_iff (today : Date) (user : Option Int) (row : JoinedRow) :
    selects today (filterConditions user ⟨[question.filter property]⟩) row = true ↔
      ∃ text, property.text? row.item = some text ∧
        question.Accepts fun day => compare text day.text := by
  rw [filterConditions_filter, selects, List.all_cons, List.all_nil, Bool.and_true, beq_iff_eq]
  cases found : property.text? row.item with
  | none => cases question <;> simp [condition, Condition.holds?, compareCell_day, found, bothHold]
  | some text =>
    cases question <;>
      simp [condition, Condition.holds?, compareCell_day, found, Accepts, Comparison.accepts]

/-- The text of a day answers the question as the day does. -/
theorem accepts_text_iff (day : Date) :
    (question.Accepts fun other => compare day.text other.text) ↔ question.Admits day := by
  simp only [Date.compare_text]
  cases question with
  | within first last =>
    change (_ ≠ _ ∧ _ ≠ _) ↔ _ ≤ _ ∧ _ ≤ _
    rw [Nat.compare_ne_lt, Nat.compare_ne_gt, Date.le_iff, Date.le_iff]
  | on other =>
    change _ = _ ↔ day = other
    rw [Nat.compare_eq_eq, Date.eq_iff]
  | upTo last =>
    change _ ≠ _ ↔ _ ≤ _
    rw [Nat.compare_ne_gt, Date.le_iff]
  | after before =>
    change _ = _ ↔ _ < _
    rw [Nat.compare_eq_gt, Date.lt_iff]

/-- The text of a moment answers the question as its day does, unless it is the last day. -/
theorem accepts_storedText_iff (moment : Moment) :
    ((question.Accepts fun other => compare moment.storedText other.text) ↔
      question.Admits moment.date) ↔ moment.date ≠ question.lastDay := by
  have before (other : Date) : compare moment.storedText other.text = .lt ↔
      moment.date.written < other.written := by
    rw [Moment.compare_storedText, Ordering.then_eq_lt, Nat.compare_eq_lt]
    exact or_iff_left fun both => nomatch both.2
  have after (other : Date) : compare moment.storedText other.text = .gt ↔
      other.written ≤ moment.date.written := by
    rw [Moment.compare_storedText, Ordering.then_eq_gt, Nat.compare_eq_gt, Nat.compare_eq_eq,
      and_iff_left rfl]
    omega
  have never (other : Date) : compare moment.storedText other.text ≠ .eq := by
    rw [Moment.compare_storedText, Ne, Ordering.then_eq_eq]
    exact fun both => nomatch both.2
  rw [Ne, Date.eq_iff]
  cases question with
  | within first last ordered =>
    change ((¬_ = _ ∧ ¬_ = _) ↔ (_ ≤ _ ∧ _ ≤ _)) ↔ ¬_ = last.written
    rw [Date.le_iff] at ordered
    rw [before, after, Date.le_iff, Date.le_iff]
    omega
  | on other =>
    change (_ = _ ↔ moment.date = other) ↔ ¬_ = other.written
    rw [iff_false_left (never other), Date.eq_iff]
  | upTo last =>
    change (¬_ = _ ↔ _ ≤ _) ↔ ¬_ = last.written
    rw [after, Date.le_iff]
    omega
  | after other =>
    change (_ = _ ↔ _ < _) ↔ ¬_ = other.written
    rw [after, Date.lt_iff]
    omega

end DayQuestion

/-- A filter that asks a question about a day selects the right rows of all tables, for every
requester and whichever day is today, unless the tables keep moments: it then selects the wrong rows
where the day of the moment is the last one that the question names, and nowhere else. -/
theorem selected_days_iff (question : DayQuestion) (property : DayProperty) :
    ∃ filters, parseFilters (question.written property) = .ok filters ∧
      ∀ (tables : Tables) (today : Date) (user : Option Int), ∀ row ∈ joinedRows tables,
        (row ∈ Database.matching tables today (filterConditions user filters) ↔
            ∃ day, property.day? row.item = some day ∧ question.Admits day) ↔
          (property.IsMoment → property.day? row.item ≠ some question.lastDay) := by
  refine ⟨_, question.parseFilters_written property, fun tables today user row member => ?_⟩
  rw [Database.matching, List.mem_filter, and_iff_right member, question.selects_iff]
  by_cases isMoment : property.IsMoment
  · obtain ⟨moment, text, day⟩ := DayProperty.exists_moment isMoment row.item
    simp only [text, day, Option.some.injEq, exists_eq_left', isMoment, true_imp_iff, ne_eq]
    exact question.accepts_storedText_iff moment
  · refine iff_of_true ?_ fun given => absurd given isMoment
    simp only [DayProperty.text?_of_not_isMoment isMoment, Option.map_eq_some_iff]
    constructor
    · rintro ⟨_, ⟨day, found, rfl⟩, accepted⟩
      exact ⟨day, found, (question.accepts_text_iff day).mp accepted⟩
    · rintro ⟨day, found, admitted⟩
      exact ⟨day.text, ⟨day, found, rfl⟩, (question.accepts_text_iff day).mpr admitted⟩

/-- The question whether a day is the first of December 2024 or the day after, on which the work
packages of `plannedTables` were created. -/
def decemberQuestion : DayQuestion :=
  .within ⟨2024, 12, 1, by decide⟩ (plannedItem 1 1 (some 5) none).createdAt.date
    (.inl (.inr ⟨rfl, .inr ⟨rfl, Nat.one_lt_two⟩⟩))

/-- It is not the case that the filters on moments mean whole days: what is created at the very
start of the last day of a range is not found in the range. -/
theorem lastDay_not_selected :
    ¬∀ (question : DayQuestion) (property : DayProperty) (filters : FilterSet) (tables : Tables)
      (today : Date) (user : Option Int), property.IsMoment →
        parseFilters (question.written property) = .ok filters → ∀ row ∈ joinedRows tables,
          (row ∈ Database.matching tables today (filterConditions user filters) ↔
            ∃ day, property.day? row.item = some day ∧ question.Admits day) := by
  intro all
  have member : joinedRow plannedTables (plannedItem 1 1 (some 5) none) ∈
      joinedRows plannedTables := List.mem_cons_self
  have selected := (all decemberQuestion .createdAt _ plannedTables ⟨2025, 4, 1, by decide⟩ none
    (.inl rfl) (decemberQuestion.parseFilters_written .createdAt) _ member).mpr
      ⟨_, rfl, by decide, by decide⟩
  have passed := (List.mem_filter.mp selected).2
  have failed : selects ⟨2025, 4, 1, by decide⟩
      (filterConditions none ⟨[decemberQuestion.filter .createdAt]⟩)
      (joinedRow plannedTables (plannedItem 1 1 (some 5) none)) = false := by decide +kernel
  rw [failed] at passed
  cases passed

end WorkQuery
