/-
This file says which codes of operators are read. They form a small language: the code of every
fixed kind but equality with the current user, two older spellings, and the mark of a relative kind
with a written day count behind it (`Operator.StandsFor`). A code is read as an operator exactly if
it belongs to that language and its day count has no more digits than an integer in a text may.
Since every operator is written in the language and no two share a code except for the two
equalities, codes are faithful (`Operator.parse_language`).
-/

import WorkQuery.Proofs.DocumentForm

namespace WorkQuery

open Number Text

/-! ### Fixed kinds -/

/-- A code stands for a fixed kind if it is the code of that kind or its older spelling. -/
theorem FixedKind.ofCode?_eq_some_iff {code : String} {kind : FixedKind} :
    ofCode? code = some kind ↔
      (kind ≠ currentUserEquals ∧ code = kind.code) ∨ (code = "o" ∧ kind = isNull) ∨
        (code = "c" ∧ kind = isNotNull) := by
  constructor
  · intro found
    have different : kind ≠ currentUserEquals := by
      rintro rfl
      exact ofCode?_ne_currentUserEquals code found
    unfold ofCode? at found
    split at found
    · exact .inr (.inl ⟨‹_›, (Option.some.inj found).symm⟩)
    · split at found
      · exact .inr (.inr ⟨‹_›, (Option.some.inj found).symm⟩)
      · have same := List.find?_some found
        exact .inl ⟨different, (beq_iff_eq.mp same).symm⟩
  · rintro (⟨different, rfl⟩ | ⟨rfl, rfl⟩ | ⟨rfl, rfl⟩)
    · rw [ofCode?_code]
      cases kind <;> first | rfl | contradiction
    · rfl
    · rfl

/-! ### Relative kinds -/

theorem RelativeKind.ofMark?_eq_some_iff {characters : List Char} {kind : RelativeKind} :
    ofMark? characters = some kind ↔ ∃ rest, characters = kind.mark.toList ++ rest := by
  constructor
  · intro found
    have begins := List.find?_some found
    obtain ⟨rest, same⟩ := List.isPrefixOf_iff_prefix.mp begins
    exact ⟨rest, same.symm⟩
  · rintro ⟨rest, rfl⟩
    exact ofMark?_mark kind rest

/-! ### Day counts -/

/-- The ways to write a sign, and whether it is a minus sign. -/
inductive IsSign : List Char → Bool → Prop
  | unwritten : IsSign [] false
  | plus : IsSign ['+'] false
  | minus : IsSign ['-'] true

/-- Whether the characters are a written day count: possibly a sign, one or more decimal digits of
any script with the given values, and possibly one line break. -/
def WritesCount (characters : List Char) (negative : Bool) (values : List Nat) : Prop :=
  ∃ sign digits ending, characters = sign ++ digits ++ ending ∧ IsSign sign negative ∧
    digits.mapM decimalDigit? = some values ∧ values ≠ [] ∧ (ending = [] ∨ ending = ['\n'])

namespace Operator

theorem exists_sign (characters : List Char) :
    ∃ sign, IsSign sign (splitSign characters).1 ∧
      characters = sign ++ (splitSign characters).2 := by
  unfold splitSign
  split
  · exact ⟨['-'], .minus, rfl⟩
  · exact ⟨['+'], .plus, rfl⟩
  · exact ⟨[], .unwritten, rfl⟩

theorem splitSign_append {sign digits : List Char} {negative : Bool} (isSign : IsSign sign negative)
    (noMinus : '-' ∉ digits) (noPlus : '+' ∉ digits) :
    splitSign (sign ++ digits) = (negative, digits) := by
  cases isSign with
  | minus => rfl
  | plus => rfl
  | unwritten => exact splitSign_of_notMem noMinus noPlus

theorem exists_ending (characters : List Char) :
    ∃ ending, (ending = [] ∨ ending = ['\n']) ∧
      characters = withoutLineBreak characters ++ ending := by
  unfold withoutLineBreak
  split
  · rename_i last
    exact ⟨['\n'], .inr rfl, (List.dropLast_append_getLast? '\n' last).symm⟩
  · exact ⟨[], .inl rfl, (List.append_nil characters).symm⟩

theorem withoutLineBreak_append {characters ending : List Char} (noBreak : '\n' ∉ characters)
    (isEnding : ending = [] ∨ ending = ['\n']) :
    withoutLineBreak (characters ++ ending) = characters := by
  rcases isEnding with rfl | rfl
  · rw [List.append_nil, withoutLineBreak, if_neg]
    exact fun last => noBreak (List.mem_of_getLast? last)
  · rw [withoutLineBreak, if_pos List.getLast?_concat, List.dropLast_concat]

/-- A written day count is read as its value, or refused for its length. -/
theorem readDays_of_writesCount {characters : List Char} {negative : Bool} {values : List Nat}
    (written : WritesCount characters negative values) :
    readDays characters =
      if digitLimit < values.length then
        .error (.text (String.ofList characters) (.tooManyDigits values.length))
      else .ok (some (signed negative (ofDigits values))) := by
  obtain ⟨sign, digits, ending, rfl, isSign, read, nonempty, isEnding⟩ := written
  have noBreak : '\n' ∉ sign ++ digits := by
    refine List.not_mem_append ?_ (notMem_digits read (by decide))
    cases isSign <;> decide
  obtain ⟨first, rest, rfl⟩ := List.exists_cons_of_ne_nil nonempty
  rw [readDays, withoutLineBreak_append noBreak isEnding,
    splitSign_append isSign (notMem_digits read (by decide)) (notMem_digits read (by decide))]
  dsimp only
  rw [read]

/-- Characters are read as no day count unless one is written there. -/
theorem readDays_eq_none_or (characters : List Char) :
    readDays characters = .ok none ∨ ∃ negative values, WritesCount characters negative values := by
  obtain ⟨ending, isEnding, body⟩ := exists_ending characters
  obtain ⟨sign, isSign, signed⟩ := exists_sign (withoutLineBreak characters)
  rw [signed] at body
  cases read : (splitSign (withoutLineBreak characters)).2.mapM decimalDigit? with
  | none =>
    refine .inl ?_
    unfold readDays
    dsimp only
    rw [read]
  | some values =>
    cases values with
    | nil =>
      refine .inl ?_
      unfold readDays
      dsimp only
      rw [read]
    | cons first rest =>
      exact .inr ⟨_, first :: rest, sign, _, ending, body, isSign, read,
        List.cons_ne_nil first rest, isEnding⟩

theorem readDays_eq_some_iff {characters : List Char} {days : Int} :
    readDays characters = .ok (some days) ↔
      ∃ negative values, WritesCount characters negative values ∧ values.length ≤ digitLimit ∧
        days = signed negative (ofDigits values) := by
  constructor
  · intro read
    rcases readDays_eq_none_or characters with none | ⟨negative, values, written⟩
    · rw [none] at read
      cases read
    · rw [readDays_of_writesCount written] at read
      split at read
      · cases read
      · rename_i short
        exact ⟨negative, values, written, not_lt.mp short,
          (Option.some.inj (Except.ok.inj read)).symm⟩
  · rintro ⟨negative, values, written, short, rfl⟩
    rw [readDays_of_writesCount written, if_neg (not_lt.mpr short)]

theorem exists_readDays_eq_error_iff {characters : List Char} :
    (∃ fault, readDays characters = .error fault) ↔
      ∃ negative values, WritesCount characters negative values ∧ digitLimit < values.length := by
  constructor
  · rintro ⟨fault, read⟩
    rcases readDays_eq_none_or characters with none | ⟨negative, values, written⟩
    · rw [none] at read
      cases read
    · rw [readDays_of_writesCount written] at read
      split at read
      · exact ⟨negative, values, written, ‹_›⟩
      · cases read
  · rintro ⟨negative, values, written, long⟩
    exact ⟨_, by rw [readDays_of_writesCount written, if_pos long]⟩

/-! ### The language of codes -/

/-- The codes that stand for an operator. -/
inductive StandsFor : String → Operator → Prop
  | ofKind (kind : FixedKind) (different : kind ≠ .currentUserEquals) :
      StandsFor kind.code (fixed kind)
  | olderIsNull : StandsFor "o" (fixed .isNull)
  | olderIsNotNull : StandsFor "c" (fixed .isNotNull)
  | ofCount (kind : RelativeKind) (count : String) (negative : Bool) (values : List Nat)
      (written : WritesCount count.toList negative values) (short : values.length ≤ digitLimit) :
      StandsFor (kind.mark ++ count) (relative kind (signed negative (ofDigits values)))

/-- Whether a code is the mark of a relative kind with a day count of too many digits. -/
def HasLongCount (code : String) : Prop :=
  ∃ (kind : RelativeKind) (count : String) (negative : Bool) (values : List Nat),
    code = kind.mark ++ count ∧ WritesCount count.toList negative values ∧
      digitLimit < values.length

/-- A code that no fixed kind has is read by its mark, or as nothing. -/
theorem parse_of_ofCode?_eq_none {code : String} (other : FixedKind.ofCode? code = none) :
    parse code = .ok none ∨
      ∃ (kind : RelativeKind) (count : String), code = kind.mark ++ count := by
  cases found : RelativeKind.ofMark? code.toList with
  | none =>
    refine .inl ?_
    rw [parse, other, found]
  | some kind =>
    obtain ⟨rest, characters⟩ := RelativeKind.ofMark?_eq_some_iff.mp found
    refine .inr ⟨kind, String.ofList rest, ?_⟩
    rw [← String.toList_inj, String.toList_append, String.toList_ofList, characters]

/-- A code is read as an operator exactly if it stands for it. -/
theorem parse_eq_some_iff {code : String} {operator : Operator} :
    parse code = .ok (some operator) ↔ StandsFor code operator := by
  constructor
  · intro read
    cases found : FixedKind.ofCode? code with
    | some kind =>
      rw [parse, found] at read
      obtain rfl := Option.some.inj (Except.ok.inj read)
      rcases FixedKind.ofCode?_eq_some_iff.mp found with ⟨different, rfl⟩ | ⟨rfl, rfl⟩ | ⟨rfl, rfl⟩
      · exact .ofKind kind different
      · exact .olderIsNull
      · exact .olderIsNotNull
    | none =>
      rcases parse_of_ofCode?_eq_none found with unread | ⟨kind, count, rfl⟩
      · rw [unread] at read
        cases read
      · rw [parse_mark] at read
        obtain ⟨days?, readCount, applied⟩ := map_eq_ok.mp read
        obtain ⟨days, rfl, rfl⟩ := Option.map_eq_some_iff.mp applied
        obtain ⟨negative, values, written, short, rfl⟩ := readDays_eq_some_iff.mp readCount
        exact .ofCount kind count negative values written short
  · intro stands
    cases stands with
    | ofKind kind different =>
      rw [parse, FixedKind.ofCode?_eq_some_iff.mpr (.inl ⟨different, rfl⟩)]
    | olderIsNull => rfl
    | olderIsNotNull => rfl
    | ofCount kind count negative values written short =>
      rw [parse_mark, readDays_eq_some_iff.mpr ⟨negative, values, written, short, rfl⟩]
      rfl

/-- Reading a code fails exactly if its day count has too many digits. -/
theorem exists_parse_eq_error_iff {code : String} :
    (∃ fault, parse code = .error fault) ↔ HasLongCount code := by
  constructor
  · rintro ⟨fault, read⟩
    cases found : FixedKind.ofCode? code with
    | some kind =>
      rw [parse, found] at read
      cases read
    | none =>
      rcases parse_of_ofCode?_eq_none found with unread | ⟨kind, count, rfl⟩
      · rw [unread] at read
        cases read
      · rw [parse_mark] at read
        cases readCount : readDays count.toList with
        | ok days? =>
          rw [readCount] at read
          cases read
        | error fault =>
          obtain ⟨negative, values, written, long⟩ :=
            exists_readDays_eq_error_iff.mp ⟨fault, readCount⟩
          exact ⟨kind, count, negative, values, rfl, written, long⟩
  · rintro ⟨kind, count, negative, values, rfl, written, long⟩
    obtain ⟨fault, readCount⟩ := exists_readDays_eq_error_iff.mpr ⟨negative, values, written, long⟩
    exact ⟨fault, by rw [parse_mark, readCount]; rfl⟩

/-! ### Codes of operators -/

/-- The code of an operator is read as that operator, or as plain equality. -/
theorem parse_code {operator : Operator} (short : operator.HasShortCount) :
    parse operator.code = .ok (some operator.canonical) := by
  cases operator with
  | fixed kind => exact parse_fixed kind
  | relative kind days => exact parse_relative kind (short days rfl)

/-- What is read from a code has a code that reads back. -/
theorem parse_code_of_parse {code : String} {operator : Operator}
    (read : parse code = .ok (some operator)) : parse operator.code = .ok (some operator) := by
  have short : operator.HasShortCount := by
    intro days counted
    cases operator with
    | fixed kind => cases counted
    | relative kind days' =>
      obtain rfl := Option.some.inj counted
      exact natAbs_lt_of_parse read
  have different : operator ≠ fixed .currentUserEquals := by
    rintro rfl
    exact parse_ne_currentUserEquals code read
  rw [parse_code short, canonical_eq_self_iff.mpr different]

theorem integerText_injective : Function.Injective integerText := by
  intro first second same
  have parts := congrArg (fun text : String => splitSign text.toList) same
  simp only [splitSign_integerText, Prod.mk.injEq] at parts
  obtain ⟨signs, digits⟩ := parts
  have magnitudes := congrArg digitsValue digits
  rw [digitsValue_toDigits, digitsValue_toDigits] at magnitudes
  rw [← signed_natAbs first, ← signed_natAbs second, signs, magnitudes]

theorem fixed_code_ne_relative_code (kind : FixedKind) (relativeKind : RelativeKind) (days : Int) :
    (fixed kind).code ≠ (relative relativeKind days).code := by
  intro same
  have begins := isPrefixOf_mark relativeKind (integerText days).toList
  rw [← String.toList_append, ← code_relative, ← same] at begins
  have found := ofCode?_of_mark begins
  rw [code, FixedKind.ofCode?_code] at found
  cases found

/-- Only the two equalities share a code. -/
theorem eq_or_equalities_of_code {first second : Operator} (same : first.code = second.code) :
    first = second ∨
      (first = fixed .equals ∧ second = fixed .currentUserEquals) ∨
      (first = fixed .currentUserEquals ∧ second = fixed .equals) := by
  cases first with
  | fixed kind =>
    cases second with
    | fixed kind' =>
      have canonical := congrArg FixedKind.ofCode? same
      rw [code, code, FixedKind.ofCode?_code, FixedKind.ofCode?_code,
        Option.some.injEq] at canonical
      revert canonical
      cases kind <;> cases kind' <;> decide
    | relative kind' days => exact absurd same (fixed_code_ne_relative_code kind kind' days)
  | relative kind days =>
    cases second with
    | fixed kind' => exact absurd same.symm (fixed_code_ne_relative_code kind' kind days)
    | relative kind' days' =>
      have characters := congrArg String.toList same
      simp only [code_relative, String.toList_append] at characters
      have marks := congrArg RelativeKind.ofMark? characters
      rw [ofMark?_mark, ofMark?_mark, Option.some.injEq] at marks
      obtain rfl := marks
      have counts := String.toList_inj.mp (List.append_cancel_left characters)
      exact .inl (congrArg (relative kind) (integerText_injective counts))

/-- Codes are faithful. Every operator but equality with the current user is read back from its
code; two operators share a code only if they are the two equalities; what is read from a code is
also read from its own code. The codes that are read are those that stand for an operator, and the
only ones that cannot be looked at are those with too long a day count. -/
theorem parse_language :
    (∀ operator : Operator, operator.HasShortCount → operator ≠ fixed .currentUserEquals →
      parse operator.code = .ok (some operator)) ∧
    (∀ first second : Operator, first ≠ second → first.code = second.code →
      (first = fixed .equals ∧ second = fixed .currentUserEquals) ∨
      (first = fixed .currentUserEquals ∧ second = fixed .equals)) ∧
    (∀ code operator, parse code = .ok (some operator) →
      parse operator.code = .ok (some operator)) ∧
    (∀ code operator, parse code = .ok (some operator) ↔ StandsFor code operator) ∧
    (∀ code, (∃ fault, parse code = .error fault) ↔ HasLongCount code) := by
  refine ⟨fun operator short different => ?_, fun first second different same => ?_,
    fun code operator => parse_code_of_parse, fun code operator => parse_eq_some_iff,
    fun code => exists_parse_eq_error_iff⟩
  · rw [parse_code short, canonical_eq_self_iff.mpr different]
  · exact (eq_or_equalities_of_code same).resolve_left different

/-- The laws at a negative day count, at the two equalities, and at a code with a plus sign, a
leading zero, digits of another script and a line break. -/
theorem parse_language_signs :
    parse "t--3" = .ok (some (relative .daysAgo (-3))) ∧
    (fixed .equals).code = (fixed .currentUserEquals).code ∧
    parse "<t++\u0660\u0663\n" = .ok (some (relative .lessThanDaysFromNow 3)) ∧
    parse "<t+3" = .ok (some (relative .lessThanDaysFromNow 3)) ∧
    StandsFor "<t++\u0660\u0663\n" (relative .lessThanDaysFromNow 3) := by
  obtain ⟨reads, shared, again, stands, -⟩ := parse_language
  have short : (relative .daysAgo (-3)).HasShortCount := by
    rintro days ⟨⟩
    exact lt_of_lt_of_le (by decide : 3 < 10 ^ 1) (Nat.pow_le_pow_right (by decide) (by decide))
  have found : parse "<t++\u0660\u0663\n" = .ok (some (relative .lessThanDaysFromNow 3)) := by
    decide +kernel
  have equalities := shared (fixed .equals) (fixed .currentUserEquals) (by decide) rfl
  exact ⟨reads (relative .daysAgo (-3)) short (by decide), rfl, found, again _ _ found,
    (stands _ _).mp found⟩

end Operator

end WorkQuery
