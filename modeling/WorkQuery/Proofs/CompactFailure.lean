/-
This file says when a compact form fails in another way than with a parse error. A text may be
nested too deeply to be read. Of filters, the code of an operator may have a day count with more
digits than are read, a day count that stands in for a missing value may be beyond all numbers, and
a value may have no text to be read from; of sort criteria, a part that is read or refused may have
none. The first filter or criterion that fails decides, and nothing else goes wrong
(`failsBeyond_parse_iff`).
-/

import WorkQuery.CompactForm.Sorts
import WorkQuery.Proofs.TypedFilter

namespace WorkQuery

open CompactForm Json Number Schema Text

/-! ### Failures -/

/-- Whether a failure is a parse error. -/
def Failure.IsParse : Failure → Prop
  | .parse _ => True
  | _ => False

/-- An outcome fails in another way than expected. -/
def FailsBeyond {Content : Type} (expected : Failure → Prop)
    (outcome : Except Failure Content) : Prop :=
  ∃ failure, outcome = .error failure ∧ ¬expected failure

section Outcomes

variable {Content Result : Type} {expected : Failure → Prop}

@[simp] theorem not_failsBeyond_ok (content : Content) :
    ¬FailsBeyond expected (.ok content : Except Failure Content) :=
  nofun

@[simp] theorem failsBeyond_error {failure : Failure} :
    FailsBeyond expected (.error failure : Except Failure Content) ↔ ¬expected failure := by
  constructor
  · rintro ⟨failure', same, beyond⟩
    exact Except.error.inj same ▸ beyond
  · exact fun beyond => ⟨failure, rfl, beyond⟩

theorem failsBeyond_bind {outcome : Except Failure Content}
    {continuation : Content → Except Failure Result} :
    FailsBeyond expected (outcome >>= continuation) ↔
      FailsBeyond expected outcome ∨
        ∃ content, outcome = .ok content ∧ FailsBeyond expected (continuation content) := by
  cases outcome with
  | error failure =>
    change FailsBeyond expected (.error failure : Except Failure Result) ↔ _
    simp
  | ok content =>
    rw [ok_bind]
    simp

theorem failsBeyond_map {outcome : Except Failure Content} {function : Content → Result} :
    FailsBeyond expected (outcome.map function) ↔ FailsBeyond expected outcome := by
  cases outcome with
  | error failure =>
    change FailsBeyond expected (.error failure : Except Failure Result) ↔ _
    simp
  | ok content => exact iff_of_false nofun nofun

theorem failsBeyond_mapM {function : Content → Except Failure Result} {contents : List Content} :
    FailsBeyond expected (contents.mapM function) ↔
      ∃ before content after, contents = before ++ content :: after ∧
        (∀ earlier ∈ before, ∃ result, function earlier = .ok result) ∧
        FailsBeyond expected (function content) := by
  unfold FailsBeyond
  simp only [mapM_eq_error_iff]
  constructor
  · rintro ⟨failure, ⟨before, content, after, same, fine, fails⟩, beyond⟩
    exact ⟨before, content, after, same, fine, failure, fails, beyond⟩
  · rintro ⟨before, content, after, same, fine, failure, fails, beyond⟩
    exact ⟨failure, ⟨before, content, after, same, fine, fails⟩, beyond⟩

end Outcomes

/-! ### Codes -/

namespace Operator

/-- A day count with more digits than are read: after a sign, if there is one, and before a line
break at the end, if there is one, all characters are digits. -/
def IsLongCount (count : List Char) : Prop :=
  digitLimit < (splitSign (withoutLineBreak count)).2.length ∧
    ∀ digit ∈ (splitSign (withoutLineBreak count)).2, (decimalDigit? digit).isSome

theorem length_of_mapM_decimalDigit? {digits : List Char} {values : List Nat}
    (read : digits.mapM decimalDigit? = some values) :
    values.length = digits.length ∧ ∀ digit ∈ digits, (decimalDigit? digit).isSome := by
  induction digits generalizing values with
  | nil =>
    obtain rfl : [] = values := Option.some.inj read
    exact ⟨rfl, List.forall_mem_nil _⟩
  | cons digit digits inductionHypothesis =>
    rw [List.mapM_cons] at read
    obtain ⟨value, first, read⟩ := Option.bind_eq_some_iff.mp read
    obtain ⟨others, rest, same⟩ := Option.bind_eq_some_iff.mp read
    obtain rfl : value :: others = values := Option.some.inj same
    obtain ⟨length, areDigits⟩ := inductionHypothesis rest
    refine ⟨?_, List.forall_mem_cons.mpr ⟨Option.isSome_of_eq_some first, areDigits⟩⟩
    rw [List.length_cons, List.length_cons, length]

theorem exists_mapM_decimalDigit? {digits : List Char}
    (areDigits : ∀ digit ∈ digits, (decimalDigit? digit).isSome) :
    ∃ values, digits.mapM decimalDigit? = some values := by
  induction digits with
  | nil => exact ⟨[], rfl⟩
  | cons digit digits inductionHypothesis =>
    obtain ⟨isDigit, areDigits⟩ := List.forall_mem_cons.mp areDigits
    obtain ⟨value, first⟩ := Option.isSome_iff_exists.mp isDigit
    obtain ⟨values, rest⟩ := inductionHypothesis areDigits
    refine ⟨value :: values, ?_⟩
    rw [List.mapM_cons, first, rest]
    rfl

/-- The only count that cannot be looked at is one with too many digits. -/
theorem readDays_fails_iff {count : List Char} :
    (∃ fault, readDays count = .error fault) ↔ IsLongCount count := by
  unfold readDays IsLongCount
  dsimp only
  cases read : (splitSign (withoutLineBreak count)).2.mapM decimalDigit? with
  | none =>
    refine iff_of_false nofun fun long => ?_
    obtain ⟨values, found⟩ := exists_mapM_decimalDigit? long.2
    rw [read] at found
    cases found
  | some values =>
    obtain ⟨length, areDigits⟩ := length_of_mapM_decimalDigit? read
    rw [← length]
    cases values with
    | nil => exact iff_of_false nofun fun long => absurd long.1 (by decide)
    | cons value values =>
      dsimp only
      split
      · rename_i long
        exact iff_of_true ⟨_, rfl⟩ ⟨long, areDigits⟩
      · rename_i short
        exact iff_of_false nofun fun long => short long.1

theorem mark_append_of_isPrefixOf {kind : RelativeKind} {characters : List Char}
    (begins : kind.mark.toList.isPrefixOf characters = true) :
    characters = kind.mark.toList ++ characters.drop kind.mark.length := by
  obtain ⟨count, rfl⟩ := List.isPrefixOf_iff_prefix.mp begins
  cases kind <;> rfl

/-- A code cannot be looked at exactly if a long count follows a mark. -/
theorem parse_fails_iff {code : String} :
    (∃ fault, parse code = .error fault) ↔
      ∃ (kind : RelativeKind) (count : List Char),
        code.toList = kind.mark.toList ++ count ∧ IsLongCount count := by
  unfold parse
  cases fixed? : FixedKind.ofCode? code with
  | some kind =>
    refine iff_of_false nofun ?_
    rintro ⟨relative, count, same, -⟩
    have begins := isPrefixOf_mark relative count
    rw [← same] at begins
    rw [ofCode?_of_mark begins] at fixed?
    cases fixed?
  | none =>
    cases mark? : RelativeKind.ofMark? code.toList with
    | none =>
      refine iff_of_false nofun ?_
      rintro ⟨relative, count, same, -⟩
      rw [same, ofMark?_mark] at mark?
      cases mark?
    | some kind =>
      have begins := List.find?_some mark?
      have characters := mark_append_of_isPrefixOf begins
      have counts : (∃ fault, (readDays (code.toList.drop kind.mark.length)).map
          (fun days? => days?.map (relative kind)) = .error fault) ↔
          IsLongCount (code.toList.drop kind.mark.length) := by
        rw [← readDays_fails_iff]
        cases readDays (code.toList.drop kind.mark.length) with
        | error fault => exact iff_of_true ⟨fault, rfl⟩ ⟨fault, rfl⟩
        | ok days? => exact iff_of_false nofun nofun
      refine counts.trans ⟨fun long => ⟨kind, _, characters, long⟩, ?_⟩
      rintro ⟨kind', count, same, long⟩
      rw [same, ofMark?_mark] at mark?
      obtain rfl := Option.some.inj mark?
      rw [same] at characters
      rw [same, ← List.append_cancel_left characters]
      exact long

end Operator

/-! ### Words -/

theorem not_isParse_ofShowFault (fault : ShowFault) : ¬(Failure.ofShowFault fault).IsParse := by
  cases fault <;> exact id

theorem failsBeyond_showFault {Content : Type} {outcome : Except ShowFault Content} :
    FailsBeyond Failure.IsParse (outcome.mapError .ofShowFault) ↔
      ∃ fault, outcome = .error fault := by
  cases outcome with
  | error fault => exact iff_of_true ⟨_, rfl, not_isParse_ofShowFault fault⟩ ⟨fault, rfl⟩
  | ok content => exact iff_of_false nofun nofun

theorem failsBeyond_conversion {Content : Type} {outcome : Except ConversionFault Content} :
    FailsBeyond Failure.IsParse (outcome.mapError .conversion) ↔
      ∃ fault, outcome = .error fault := by
  cases outcome with
  | error fault => exact iff_of_true ⟨_, rfl, id⟩ ⟨fault, rfl⟩
  | ok content => exact iff_of_false nofun nofun

namespace CompactForm

theorem failsBeyond_word {value : Value} :
    FailsBeyond Failure.IsParse (word value) ↔ value.IsUnshowable :=
  failsBeyond_showFault.trans Value.written_fails_iff

theorem failsBeyond_mapM_word {values : List Value} :
    FailsBeyond Failure.IsParse (values.mapM word) ↔ ∃ value ∈ values, value.IsUnshowable := by
  cases read : values.mapM word with
  | error failure =>
    obtain ⟨before, value, after, rfl, -, fails⟩ := mapM_eq_error_iff.mp read
    have unshowable : value.IsUnshowable := word_fails_iff.mp ⟨failure, fails⟩
    obtain ⟨failure', fails', beyond⟩ := failsBeyond_word.mpr unshowable
    obtain rfl := Except.error.inj (fails'.symm.trans fails)
    exact iff_of_true ⟨_, rfl, beyond⟩ ⟨value, by simp, unshowable⟩
  | ok words =>
    refine iff_of_false (not_failsBeyond_ok words) ?_
    rintro ⟨value, member, unshowable⟩
    exact (mapM_word_eq_ok_iff.mp read).1 value member unshowable

/-! ### Members -/

/-- A code is written by an operator, or by an operator that is a bare mark together with the text
of the first value. -/
def IsWrittenBy (operator : String) (values : List Value) (code : String) : Prop :=
  code = operator ∨ ∃ (kind : RelativeKind) (first : Value) (rest : List Value) (count : String),
    operator = kind.mark ∧ values = first :: rest ∧ first.written = .ok count ∧
      code = operator ++ count

/-- An operator is a bare mark, and the first value, which should be its day count, has no text. -/
def LacksCount (operator : String) (values : List Value) : Prop :=
  ∃ (kind : RelativeKind) (first : Value) (rest : List Value),
    operator = kind.mark ∧ values = first :: rest ∧ first.IsUnshowable

/-- A bare mark stands for no operator. -/
theorem parse_mark (kind : RelativeKind) : Operator.parse kind.mark = .ok none := by
  cases kind <;> rfl

/-- A bare mark takes its day count from the first value. -/
theorem operatorOfCode_mark (kind : RelativeKind) (first : Value) (rest : List Value) :
    operatorOfCode kind.mark (first :: rest) =
      (word first >>= fun count =>
        (Operator.parse (kind.mark ++ count)).mapError .conversion) := by
  have isMark : (RelativeKind.all.any fun other => other.mark == kind.mark) = true := by
    cases kind <;> decide
  have unread : (Operator.parse kind.mark).mapError Failure.conversion = .ok none :=
    mapError_eq_ok.mpr (parse_mark kind)
  unfold operatorOfCode
  rw [unread, ok_bind, isMark]

/-- Any other operator, or a mark without values, stands for itself. -/
theorem operatorOfCode_alone {operator : String} {values : List Value}
    (alone : ¬∃ (kind : RelativeKind) (first : Value) (rest : List Value),
      operator = kind.mark ∧ values = first :: rest) :
    operatorOfCode operator values = (Operator.parse operator).mapError .conversion := by
  unfold operatorOfCode
  cases (Operator.parse operator).mapError Failure.conversion with
  | error failure => rfl
  | ok operator? =>
    rw [ok_bind]
    cases operator? with
    | some found => rfl
    | none =>
      dsimp only
      split
      · rename_i first rest isMark
        obtain ⟨kind, -, same⟩ := List.any_eq_true.mp isMark
        exact absurd ⟨kind, first, rest, (beq_iff_eq.mp same).symm, rfl⟩ alone
      · rfl

theorem failsBeyond_operatorOfCode {operator : String} {values : List Value} :
    FailsBeyond Failure.IsParse (operatorOfCode operator values) ↔
      (∃ code, IsWrittenBy operator values code ∧ ∃ fault, Operator.parse code = .error fault) ∨
        LacksCount operator values := by
  by_cases marked : ∃ (kind : RelativeKind) (first : Value) (rest : List Value),
      operator = kind.mark ∧ values = first :: rest
  · obtain ⟨kind, first, rest, rfl, rfl⟩ := marked
    rw [operatorOfCode_mark, failsBeyond_bind, failsBeyond_word]
    simp only [failsBeyond_conversion]
    constructor
    · rintro (unshowable | ⟨count, given, fails⟩)
      · exact .inr ⟨kind, first, rest, rfl, rfl, unshowable⟩
      · have written : first.written = .ok count := mapError_eq_ok.mp given
        exact .inl ⟨_, .inr ⟨kind, first, rest, count, rfl, rfl, written, rfl⟩, fails⟩
    · rintro (⟨code, writes, fault, fails⟩ | ⟨_, _, _, -, same, unshowable⟩)
      · rcases writes with rfl | ⟨_, _, _, count, -, same, written, rfl⟩
        · rw [parse_mark] at fails
          cases fails
        · obtain ⟨rfl, -⟩ := List.cons.inj same
          exact .inr ⟨count, mapError_eq_ok.mpr written, fault, fails⟩
      · obtain ⟨rfl, -⟩ := List.cons.inj same
        exact .inl unshowable
  · rw [operatorOfCode_alone marked, failsBeyond_conversion]
    constructor
    · exact fun fails => .inl ⟨operator, .inl rfl, fails⟩
    · rintro (⟨code, rfl | ⟨kind, first, rest, -, isMark, given, -⟩, fails⟩ |
        ⟨kind, first, rest, isMark, given, -⟩)
      · exact fails
      · exact absurd ⟨kind, first, rest, isMark, given⟩ marked
      · exact absurd ⟨kind, first, rest, isMark, given⟩ marked

/-- The body of a filter overflows: its code has a day count with too many digits, or the day count
or another of its values has no text, or it is given no value and its day count is beyond all
numbers. -/
inductive Overflows (property : String) (body : Value) : Prop
  | code {operator code : String} {kind : RelativeKind} {count : List Char}
    (given : body.member "operator" = .text operator)
    (writes : IsWrittenBy operator (rawValues body) code)
    (marked : code.toList = kind.mark.toList ++ count) (long : Operator.IsLongCount count)
  | mark {operator : String} (given : body.member "operator" = .text operator)
    (lacks : LacksCount operator (rawValues body))
  | value {operator : String} {found : Operator} {value : Value}
    (given : body.member "operator" = .text operator)
    (known : operatorOfCode operator (rawValues body) = .ok (some found))
    (member : value ∈ rawValues body) (unshowable : value.IsUnshowable)
  | count {kind : RelativeKind} {days : Int}
    (given : parseOperator property (body.member "operator") (rawValues body) =
      .ok (.relative kind days))
    (unvalued : wordsOf (rawValues body) = []) (large : Binary64.ofInt? days = none)

/-- Only equality looks at the values. -/
theorem failsBeyond_settledOperator {property : String} {operator : Operator}
    {values : List Value} :
    FailsBeyond Failure.IsParse (settledOperator property operator values) ↔
      operator = .fixed .equals ∧ ∃ value ∈ values, value.IsUnshowable := by
  unfold settledOperator
  split
  · rename_i isEquals
    rw [failsBeyond_bind, failsBeyond_mapM_word, and_iff_right isEquals]
    refine or_iff_left ?_
    rintro ⟨words, -, fails⟩
    exact not_failsBeyond_ok _ fails
  · rename_i different
    exact iff_of_false (not_failsBeyond_ok _) fun all => different all.1

theorem failsBeyond_parseOperator {property : String} {operator : Value} {values : List Value} :
    FailsBeyond Failure.IsParse (parseOperator property operator values) ↔
      ∃ code, operator = .text code ∧
        (FailsBeyond Failure.IsParse (operatorOfCode code values) ∨
          operatorOfCode code values = .ok (some (.fixed .equals)) ∧
            ∃ value ∈ values, value.IsUnshowable) := by
  unfold parseOperator
  split
  · rename_i code
    simp only [Value.text.injEq, exists_eq_left']
    rw [failsBeyond_bind]
    refine or_congr_right ⟨?_, ?_⟩
    · rintro ⟨operator?, read, fails⟩
      cases operator? with
      | none => exact absurd trivial (failsBeyond_error.mp fails)
      | some found =>
        obtain ⟨rfl, unshowable⟩ := failsBeyond_settledOperator.mp fails
        exact ⟨read, unshowable⟩
    · rintro ⟨read, unshowable⟩
      exact ⟨_, read, failsBeyond_settledOperator.mpr ⟨rfl, unshowable⟩⟩
  · rename_i noText
    refine iff_of_false (by simp [Failure.IsParse]) ?_
    rintro ⟨code, rfl, -⟩
    exact noText code rfl

/-- An operator other than equality is the one that its code stands for. -/
theorem parseOperator_of_known {property code : String} {values : List Value} {operator : Operator}
    (known : operatorOfCode code values = .ok (some operator))
    (different : operator ≠ .fixed .equals) :
    parseOperator property (.text code) values = .ok operator := by
  unfold parseOperator
  dsimp only
  rw [known, ok_bind]
  exact if_neg different

theorem exists_known_of_parseOperator {property : String} {code : Value} {values : List Value}
    {operator : Operator} (parsed : parseOperator property code values = .ok operator) :
    ∃ written found, code = .text written ∧
      operatorOfCode written values = .ok (some found) := by
  unfold parseOperator at parsed
  split at parsed
  · obtain ⟨operator?, known, parsed⟩ := bind_eq_ok.mp parsed
    cases operator? with
    | none => cases parsed
    | some found => exact ⟨_, found, rfl, known⟩
  · cases parsed

theorem failsBeyond_defaultValue {operator : Operator} :
    FailsBeyond Failure.IsParse (defaultValue operator) ↔
      ∃ kind days, operator = .relative kind days ∧ Binary64.ofInt? days = none := by
  cases operator with
  | fixed kind => exact iff_of_false nofun nofun
  | relative kind days =>
    unfold defaultValue
    dsimp only [Operator.days?]
    cases large : Binary64.ofInt? days with
    | none => exact iff_of_true ⟨_, rfl, id⟩ ⟨kind, days, rfl, large⟩
    | some number =>
      refine iff_of_false nofun ?_
      rintro ⟨kind', days', same, beyond⟩
      obtain ⟨-, rfl⟩ := Operator.relative.inj same
      rw [large] at beyond
      cases beyond

theorem not_failsBeyond_parseDate (written : String) :
    ¬FailsBeyond Failure.IsParse (parseDate written) := by
  unfold parseDate
  split <;> simp [Failure.IsParse]

theorem not_failsBeyond_identifierValue (property : String) (words : List String) :
    ¬FailsBeyond Failure.IsParse (identifierValue property words) := by
  unfold identifierValue
  split <;> simp [Failure.IsParse]

theorem not_failsBeyond_singleValue (property word : String) (effective : PropertyClass) :
    ¬FailsBeyond Failure.IsParse (singleValue property word effective) := by
  unfold singleValue
  split
  · dsimp only
    split
    · simp
    · split <;> simp [Failure.IsParse]
  · rw [failsBeyond_map]
    exact not_failsBeyond_parseDate word
  · split <;> simp [Failure.IsParse]

/-- Words that are there are read, or refused with a parse error. -/
theorem not_failsBeyond_typedWords (property : String) (operator : Operator) (word : String)
    (rest : List String) :
    ¬FailsBeyond Failure.IsParse (typedWords property operator (word :: rest)) := by
  unfold typedWords
  dsimp only
  rw [if_neg (by simp)]
  split
  · split <;> simp [Failure.IsParse]
  · split
    · simp [Failure.IsParse]
    · cases effectiveClass property operator with
      | identifier => exact not_failsBeyond_identifierValue _ _
      | free => exact not_failsBeyond_ok _
      | truth | day | number => exact not_failsBeyond_singleValue _ _ _

/-- Words are read, or refused with a parse error, unless there are none and a day count stands in
for them that is beyond all numbers. -/
theorem failsBeyond_valueOfWords {property : String} {operator : Operator} {words : List String} :
    FailsBeyond Failure.IsParse (valueOfWords property operator words) ↔
      words = [] ∧ ∃ kind days, operator = .relative kind days ∧ Binary64.ofInt? days = none := by
  unfold valueOfWords
  split
  · rename_i isRange
    refine iff_of_false ?_ ?_
    · split
      · rename_i first last
        rw [failsBeyond_bind, not_or]
        refine ⟨not_failsBeyond_parseDate first, ?_⟩
        rintro ⟨date, -, fails⟩
        rw [failsBeyond_bind] at fails
        rcases fails with fails | ⟨date', -, fails⟩
        · exact not_failsBeyond_parseDate last fails
        · exact not_failsBeyond_ok _ fails
      · simp [Failure.IsParse]
    · rintro ⟨-, kind, days, relative, -⟩
      rw [relative] at isRange
      cases isRange
  · cases words with
    | nil =>
      change FailsBeyond _ (defaultValue operator) ↔ _
      rw [failsBeyond_defaultValue]
      exact (and_iff_right rfl).symm
    | cons word rest =>
      refine iff_of_false (not_failsBeyond_typedWords property operator word rest) ?_
      rintro ⟨empty, -⟩
      cases empty

/-- Values are read, or refused with a parse error, unless one of them has no text, or a day count
stands in for them that is beyond all numbers. -/
theorem failsBeyond_typedValue {property : String} {operator : Operator} {values : List Value} :
    FailsBeyond Failure.IsParse (typedValue property operator values) ↔
      (∃ value ∈ values, value.IsUnshowable) ∨
        wordsOf values = [] ∧
          ∃ kind days, operator = .relative kind days ∧ Binary64.ofInt? days = none := by
  unfold typedValue
  rw [failsBeyond_bind, failsBeyond_mapM_word]
  constructor
  · rintro (⟨value, member, unshowable⟩ | ⟨words, read, fails⟩)
    · exact .inl ⟨value, List.mem_of_mem_filter member, unshowable⟩
    · obtain ⟨-, rfl⟩ := mapM_word_eq_ok_iff.mp read
      exact .inr (failsBeyond_valueOfWords.mp fails)
  · rintro (⟨value, member, unshowable⟩ | ⟨unvalued, large⟩)
    · exact .inl ⟨value, mem_present member unshowable.ne_null, unshowable⟩
    · have nothing := List.map_eq_nil_iff.mp unvalued
      rw [nothing]
      exact .inr ⟨[], rfl, failsBeyond_valueOfWords.mpr ⟨rfl, large⟩⟩

/-- A member that stands for a filter is read, or refused with a parse error, unless its body
overflows. -/
theorem failsBeyond_parseMember {property : String} {body : Value} :
    FailsBeyond Failure.IsParse (parseMember property body) ↔
      (∃ fields, body = .object fields) ∧ Overflows property body := by
  unfold parseMember
  split
  · rename_i fields
    rw [failsBeyond_bind, failsBeyond_parseOperator]
    constructor
    · rintro (⟨operator, given, fails | ⟨known, value, member, unshowable⟩⟩ |
        ⟨operator, parsed, fails⟩)
      · rcases failsBeyond_operatorOfCode.mp fails with ⟨code, writes, fails⟩ | lacks
        · obtain ⟨kind, count, marked, long⟩ := Operator.parse_fails_iff.mp fails
          exact ⟨⟨fields, rfl⟩, .code given writes marked long⟩
        · exact ⟨⟨fields, rfl⟩, .mark given lacks⟩
      · exact ⟨⟨fields, rfl⟩, .value given known member unshowable⟩
      · rw [failsBeyond_bind, failsBeyond_typedValue] at fails
        rcases fails with (⟨value, member, unshowable⟩ | ⟨unvalued, kind, days, rfl, large⟩) |
          ⟨value, -, fails⟩
        · obtain ⟨code, found, given, known⟩ := exists_known_of_parseOperator parsed
          exact ⟨⟨fields, rfl⟩, .value given known member unshowable⟩
        · exact ⟨⟨fields, rfl⟩, .count parsed unvalued large⟩
        · exact absurd fails (not_failsBeyond_ok _)
    · rintro ⟨-, overflows⟩
      cases overflows with
      | code given writes marked long =>
        refine .inl ⟨_, given, .inl (failsBeyond_operatorOfCode.mpr (.inl ⟨_, writes, ?_⟩))⟩
        exact Operator.parse_fails_iff.mpr ⟨_, _, marked, long⟩
      | mark given lacks =>
        exact .inl ⟨_, given, .inl (failsBeyond_operatorOfCode.mpr (.inr lacks))⟩
      | @value operator found value given known member unshowable =>
        -- Equality already fails over the values; any other operator leaves them to be typed.
        by_cases isEquals : found = .fixed .equals
        · exact .inl ⟨_, given, .inr ⟨isEquals ▸ known, value, member, unshowable⟩⟩
        · refine .inr ⟨found, ?_, failsBeyond_bind.mpr (.inl ?_)⟩
          · rw [given]
            exact parseOperator_of_known known isEquals
          · exact failsBeyond_typedValue.mpr (.inl ⟨value, member, unshowable⟩)
      | count given unvalued large =>
        refine .inr ⟨_, given, failsBeyond_bind.mpr (.inl ?_)⟩
        exact failsBeyond_typedValue.mpr (.inr ⟨unvalued, _, _, rfl, large⟩)
  · rename_i noObject
    refine iff_of_false (by simp [Failure.IsParse]) ?_
    rintro ⟨⟨fields, rfl⟩, -⟩
    exact noObject fields rfl

/-! ### Forms -/

/-- A text with lists and objects that stand too deeply inside each other to be read. -/
def IsTooDeep (raw : Value) : Prop :=
  ∃ text nest, raw = .text text ∧ Json.read .request text = .error (.tooDeep nest)

theorem failsBeyond_entries {subject : String} {raw : Value} :
    FailsBeyond Failure.IsParse (entries subject raw) ↔ IsTooDeep raw := by
  unfold entries IsTooDeep
  split
  · exact iff_of_false nofun nofun
  · exact iff_of_false nofun nofun
  · rename_i text
    split
    · rename_i empty
      refine iff_of_false nofun ?_
      rintro ⟨text, nest, same, read⟩
      rw [← Value.text.inj same, empty] at read
      cases read
    · constructor
      · intro fails
        split at fails
        · exact absurd fails nofun
        · exact absurd fails (by simp [Failure.IsParse])
        · rename_i nest read
          exact ⟨text, nest, rfl, read⟩
        · exact absurd fails (by simp [Failure.IsParse])
      · rintro ⟨text, nest, same, read⟩
        rw [Value.text.inj same, read]
        exact ⟨_, rfl, id⟩
  · rename_i noText
    refine iff_of_false (by simp [Failure.IsParse]) ?_
    rintro ⟨text, nest, rfl, -⟩
    exact noText text rfl

/-- The first filter that cannot be read, with everything before it, is one that overflows. -/
def FirstOverflows (items : List Value) : Prop :=
  ∃ before fields after, items = before ++ .object fields :: after ∧
    (∀ entry ∈ before, ∃ filters, parseEntry entry = .ok filters) ∧
    ∃ earlier property body later, fields = earlier ++ (property, .object body) :: later ∧
      (∀ member ∈ earlier, ∃ filter, parseMember member.1 member.2 = .ok filter) ∧
      Overflows property (.object body)

theorem failsBeyond_parseEntry {entry : Value} :
    FailsBeyond Failure.IsParse (parseEntry entry) ↔
      ∃ fields, entry = .object fields ∧
        ∃ earlier property body later, fields = earlier ++ (property, .object body) :: later ∧
          (∀ member ∈ earlier, ∃ filter, parseMember member.1 member.2 = .ok filter) ∧
          Overflows property (.object body) := by
  unfold parseEntry
  split
  · rename_i fields
    rw [failsBeyond_mapM]
    constructor
    · rintro ⟨earlier, ⟨property, body⟩, later, rfl, fine, fails⟩
      obtain ⟨⟨body, rfl⟩, overflows⟩ := failsBeyond_parseMember.mp fails
      exact ⟨_, rfl, earlier, property, body, later, rfl, fine, overflows⟩
    · rintro ⟨fields', same, earlier, property, body, later, split, fine, overflows⟩
      obtain rfl := Value.object.inj same
      exact ⟨earlier, (property, .object body), later, split, fine,
        failsBeyond_parseMember.mpr ⟨⟨body, rfl⟩, overflows⟩⟩
  · rename_i noObject
    refine iff_of_false (by simp [Failure.IsParse]) ?_
    rintro ⟨fields, rfl, -⟩
    exact noObject fields rfl

theorem failsBeyond_parseFilters {raw : Value} :
    FailsBeyond Failure.IsParse (parseFilters raw) ↔
      IsTooDeep raw ∨ ∃ items, entries "filters" raw = .ok items ∧ FirstOverflows items := by
  unfold parseFilters
  rw [failsBeyond_bind, failsBeyond_entries]
  refine or_congr_right (exists_congr fun items => and_congr_right fun _ => ?_)
  rw [failsBeyond_bind, failsBeyond_mapM]
  constructor
  · rintro (⟨before, entry, after, rfl, fine, fails⟩ | ⟨filters, -, fails⟩)
    · obtain ⟨fields, rfl, first⟩ := failsBeyond_parseEntry.mp fails
      exact ⟨before, fields, after, rfl, fine, first⟩
    · exact absurd fails (not_failsBeyond_ok _)
  · rintro ⟨before, fields, after, rfl, fine, first⟩
    exact .inl ⟨before, .object fields, after, rfl, fine,
      failsBeyond_parseEntry.mpr ⟨fields, rfl, first⟩⟩

/-- A pair overflows: its direction has no text; or its direction is known and its property, which
is there, has no text; or it is refused and cannot be shown. -/
inductive PairOverflows (property direction : Value) : Prop
  | direction (unshowable : direction.IsUnshowable)
  | property {name : String} {found : Direction} (named : direction.written = .ok name)
    (known : Direction.parse? name = some found) (present : property.isVoid = false)
    (unshowable : property.IsUnshowable)
  | refused {name : String} (named : direction.written = .ok name)
    (bad : Direction.parse? name = none ∨ property.isVoid = true)
    (unshowable : (Value.list [property, direction]).IsUnshowable)

/-- The first criterion that cannot be read, with everything before it, is one whose pair
overflows. -/
def FirstPairOverflows (items : List Value) : Prop :=
  ∃ before entry after, items = before ++ entry :: after ∧
    (∀ earlier ∈ before, ∃ criterion, parseCriterion earlier = .ok criterion) ∧
    ∃ property direction, criterionPair entry = .ok (property, direction) ∧
      PairOverflows property direction

theorem failsBeyond_refusePair {property direction : Value} :
    FailsBeyond Failure.IsParse (refusePair property direction) ↔
      (Value.list [property, direction]).IsUnshowable := by
  unfold refusePair
  rw [failsBeyond_bind, failsBeyond_showFault, Value.display_fails_iff]
  refine or_iff_left ?_
  rintro ⟨shown, -, fails⟩
  exact failsBeyond_error.mp fails trivial

theorem failsBeyond_criterionOfPair {property direction : Value} :
    FailsBeyond Failure.IsParse (criterionOfPair property direction) ↔
      PairOverflows property direction := by
  unfold criterionOfPair
  rw [failsBeyond_bind, failsBeyond_word]
  constructor
  · rintro (unshowable | ⟨name, given, fails⟩)
    · exact .direction unshowable
    · have named : direction.written = .ok name := mapError_eq_ok.mp given
      split at fails
      · rename_i found known
        split at fails
        · rename_i void
          exact .refused named (.inr void) (failsBeyond_refusePair.mp fails)
        · rename_i present
          rw [failsBeyond_bind, failsBeyond_word] at fails
          rcases fails with unshowable | ⟨text, -, fails⟩
          · exact .property named known (Bool.eq_false_iff.mpr present) unshowable
          · exact absurd fails (not_failsBeyond_ok _)
      · rename_i unknown
        exact .refused named (.inl unknown) (failsBeyond_refusePair.mp fails)
  · intro overflows
    cases overflows with
    | direction unshowable => exact .inl unshowable
    | @property name found named known present unshowable =>
      refine .inr ⟨name, mapError_eq_ok.mpr named, ?_⟩
      rw [known, present]
      exact failsBeyond_bind.mpr (.inl (failsBeyond_word.mpr unshowable))
    | @refused name named bad unshowable =>
      refine .inr ⟨name, mapError_eq_ok.mpr named, ?_⟩
      have refused := failsBeyond_refusePair.mpr unshowable
      cases known : Direction.parse? name with
      | none => exact refused
      | some found =>
        have void : property.isVoid = true := bad.resolve_left (by rw [known]; exact nofun)
        rw [void]
        exact refused

theorem failsBeyond_parseCriterion {entry : Value} :
    FailsBeyond Failure.IsParse (parseCriterion entry) ↔
      ∃ property direction, criterionPair entry = .ok (property, direction) ∧
        PairOverflows property direction := by
  have readable : ¬FailsBeyond Failure.IsParse (criterionPair entry) := by
    unfold criterionPair
    split <;> simp [Failure.IsParse]
  unfold parseCriterion
  rw [failsBeyond_bind, or_iff_right readable, Prod.exists]
  simp only [failsBeyond_criterionOfPair]

theorem failsBeyond_parseSorts {raw : Value} :
    FailsBeyond Failure.IsParse (parseSorts raw) ↔
      IsTooDeep raw ∨ ∃ items, entries "sortBy" raw = .ok items ∧ FirstPairOverflows items := by
  unfold parseSorts
  rw [failsBeyond_bind, failsBeyond_entries]
  refine or_congr_right (exists_congr fun items => and_congr_right fun _ => ?_)
  rw [failsBeyond_bind, failsBeyond_mapM]
  simp only [failsBeyond_parseCriterion]
  refine or_iff_left ?_
  rintro ⟨criteria, -, fails⟩
  exact not_failsBeyond_ok _ fails

/-- Compact forms are read, or refused with a parse error, except for texts that are nested too
deeply and for forms of which the first filter or criterion that cannot be read is one that
overflows. -/
theorem failsBeyond_parse_iff (raw : Value) :
    (FailsBeyond Failure.IsParse (parseFilters raw) ↔
      IsTooDeep raw ∨ ∃ items, entries "filters" raw = .ok items ∧ FirstOverflows items) ∧
    (FailsBeyond Failure.IsParse (parseSorts raw) ↔
      IsTooDeep raw ∨
        ∃ items, entries "sortBy" raw = .ok items ∧ FirstPairOverflows items) :=
  ⟨failsBeyond_parseFilters, failsBeyond_parseSorts⟩

/-- The filter of a property and an operator that has no value. -/
def unvalued (property : String) (operator : Operator) : Value :=
  .list [.object [(property, .object
    [("operator", .text operator.code), ("values", .list [])])]]

/-- Without a value, a day count beyond all numbers is one of those filters. -/
theorem failsBeyond_parseFilters_unvalued (property : String) (kind : RelativeKind) {days : Int}
    (short : days.natAbs < 10 ^ digitLimit) (large : Binary64.ofInt? days = none) :
    FailsBeyond Failure.IsParse (parseFilters (unvalued property (.relative kind days))) := by
  have given : parseOperator property (.text (Operator.relative kind days).code) [] =
      .ok (.relative kind days) := by
    refine parseOperator_of_known ?_ nofun
    rw [operatorOfCode_alone (by simp), Operator.parse_relative kind short]
    rfl
  have first : FirstOverflows [.object [(property, .object
      [("operator", .text (Operator.relative kind days).code), ("values", .list [])])]] :=
    ⟨[], _, [], rfl, List.forall_mem_nil _, [], _, _, [], rfl, List.forall_mem_nil _,
      .count given rfl large⟩
  exact failsBeyond_parseFilters.mpr (.inr ⟨_, rfl, first⟩)

/-- The filter for a day that lies ten to the power of four hundred days back, without a value. -/
def endlessCount : Value :=
  unvalued "start_date" (.relative .daysAgo (10 ^ 200 * 10 ^ 200))

/-- It is not the case that whatever is no compact form is refused with a parse error. -/
theorem endlessCount_not_refused :
    ¬∀ raw failure, parseFilters raw = .error failure → failure.IsParse := by
  have fails : FailsBeyond Failure.IsParse (parseFilters endlessCount) :=
    failsBeyond_parseFilters_unvalued "start_date" .daysAgo (by decide +kernel) (by decide +kernel)
  obtain ⟨failure, failed, beyond⟩ := fails
  exact fun all => beyond (all endlessCount failure failed)

end CompactForm

end WorkQuery
