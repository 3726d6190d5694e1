/-
This file says which values both readers of integers take, and as which integer
(`givesInteger_iff`): integers, truth values, whole numbers of sixty-four bits, and texts of ASCII
digits with or without a sign, zeros at the start, single underscores between digits, and blanks
around it all.
-/

import WorkQuery.Proofs.ColumnForm
import WorkQuery.Proofs.OperatorLanguage

namespace WorkQuery

open Json Number Text

/-! ### Blanks around a text -/

namespace Text

theorem dropWhile_blanks_append {blank : Char → Bool} {before characters after : List Char}
    (blanksBefore : ∀ character ∈ before, blank character = true)
    (blanksAfter : ∀ character ∈ after, blank character = true)
    (plain : ∀ character ∈ characters, blank character = false) :
    (before ++ (characters ++ after)).dropWhile blank =
      if characters = [] then [] else characters ++ after := by
  rw [List.dropWhile_append_of_pos blanksBefore]
  cases characters with
  | nil => exact List.dropWhile_eq_nil_iff.mpr blanksAfter
  | cons first rest =>
    exact List.dropWhile_cons_of_neg (by simp [plain first List.mem_cons_self])

/-- Blanks around characters without blanks are all that is trimmed. -/
theorem trim_surrounded {blank : Char → Bool} {before characters after : List Char}
    (blanksBefore : ∀ character ∈ before, blank character = true)
    (blanksAfter : ∀ character ∈ after, blank character = true)
    (plain : ∀ character ∈ characters, blank character = false) :
    trim blank (before ++ (characters ++ after)) = characters := by
  rw [trim, dropWhile_blanks_append blanksBefore blanksAfter plain]
  split
  · rename_i nothing
    exact nothing.symm
  · rename_i something
    have turned := @dropWhile_blanks_append blank after.reverse characters.reverse []
      (fun character member => blanksAfter character (List.mem_reverse.mp member))
      (List.forall_mem_nil _) fun character member => plain character (List.mem_reverse.mp member)
    rw [List.append_nil, if_neg (mt List.reverse_eq_nil_iff.mp something)] at turned
    rw [trimEnd, List.reverse_append, turned, List.reverse_reverse]

theorem exists_blanks (blank : Char → Bool) (characters : List Char) :
    ∃ before after, characters = before ++ (trim blank characters ++ after) ∧
      (∀ character ∈ before, blank character = true) ∧
      ∀ character ∈ after, blank character = true := by
  refine ⟨characters.takeWhile blank,
    ((characters.dropWhile blank).reverse.takeWhile blank).reverse, ?_,
    fun _ => List.mem_takeWhile_imp, fun _ member =>
      List.mem_takeWhile_imp (List.mem_reverse.mp member)⟩
  rw [trim, trimEnd, ← List.reverse_append, List.takeWhile_append_dropWhile, List.reverse_reverse,
    List.takeWhile_append_dropWhile]

end Text

namespace Schema

/-! ### Spelled digits -/

/-- How ASCII digits are spelled: one after another, and a single underscore may stand between two
of them. -/
inductive SpellsDigits : List Char → List Char → Prop
  | last {digit : Char} (isDigit : digit.isDigit = true) : SpellsDigits [digit] [digit]
  | next {digit : Char} {characters digits : List Char} (isDigit : digit.isDigit = true)
    (others : SpellsDigits characters digits) :
    SpellsDigits (digit :: characters) (digit :: digits)
  | apart {digit : Char} {characters digits : List Char} (isDigit : digit.isDigit = true)
    (others : SpellsDigits characters digits) :
    SpellsDigits (digit :: '_' :: characters) (digit :: digits)

namespace SpellsDigits

variable {characters digits : List Char}

theorem exists_first (spelled : SpellsDigits characters digits) :
    ∃ first rest others, characters = first :: rest ∧ digits = first :: others ∧
      first.isDigit = true := by
  cases spelled with
  | last isDigit | next isDigit | apart isDigit => exact ⟨_, _, _, rfl, rfl, isDigit⟩

theorem areDigits (spelled : SpellsDigits characters digits) :
    ∀ digit ∈ digits, digit.isDigit = true := by
  induction spelled with
  | last isDigit => exact List.forall_mem_singleton.mpr isDigit
  | next isDigit _ inductionHypothesis | apart isDigit _ inductionHypothesis =>
    exact List.forall_mem_cons.mpr ⟨isDigit, inductionHypothesis⟩

theorem ungrouped_eq (spelled : SpellsDigits characters digits) :
    ungrouped characters = digits := by
  induction spelled with
  | last isDigit => exact ungrouped_of_isDigit (List.forall_mem_singleton.mpr isDigit)
  | next isDigit _ inductionHypothesis =>
    rw [ungrouped_cons (ne_of_isDigit isDigit (by decide)), inductionHypothesis]
  | apart isDigit _ inductionHypothesis =>
    rw [ungrouped_cons (ne_of_isDigit isDigit (by decide)), ungrouped_underscore,
      inductionHypothesis]

/-- Nothing but digits and underscores is used to spell digits. -/
theorem isDigit_or_eq (spelled : SpellsDigits characters digits) {character : Char}
    (member : character ∈ characters) : character.isDigit = true ∨ character = '_' := by
  by_cases underscore : character = '_'
  · exact .inr underscore
  · refine .inl (spelled.areDigits character ?_)
    rw [← spelled.ungrouped_eq]
    exact List.mem_filter.mpr ⟨member, bne_iff_ne.mpr underscore⟩

theorem notMem (spelled : SpellsDigits characters digits) {mark : Char}
    (notDigit : mark.isDigit = false) (notUnderscore : mark ≠ '_') : mark ∉ characters := by
  intro member
  rcases spelled.isDigit_or_eq member with isDigit | same
  · rw [notDigit] at isDigit
    cases isDigit
  · exact notUnderscore same

theorem groupedDigits?_eq (spelled : SpellsDigits characters digits) :
    groupedDigits? decimalDigit? characters =
      some (digits.map fun digit => digit.toNat - '0'.toNat) := by
  induction spelled with
  | last isDigit =>
    rw [groupedDigits?, decimalDigit?_of_isDigit _ isDigit]
    rfl
  | next isDigit others inductionHypothesis =>
    obtain ⟨first, rest, _, rfl, -, isFirst⟩ := others.exists_first
    rw [groupedDigits?, decimalDigit?_of_isDigit _ isDigit, inductionHypothesis]
    · rfl
    · exact List.cons_ne_nil first rest
    · exact fun _ same => ne_of_isDigit isFirst (by decide) (List.cons.inj same).1
  | apart isDigit _ inductionHypothesis =>
    rw [groupedDigits?, decimalDigit?_of_isDigit _ isDigit, inductionHypothesis]
    rfl

theorem readMagnitude_eq (spelled : SpellsDigits characters digits)
    (short : digits.length ≤ digitLimit) :
    readMagnitude characters = .ok (digitsValue digits) := by
  have whole : characters.takeWhile (fun character =>
      character == '_' || (decimalDigit? character).isSome) = characters := by
    refine List.takeWhile_eq_self_iff.mpr fun character member => ?_
    rcases spelled.isDigit_or_eq member with isDigit | rfl
    · rw [decimalDigit?_of_isDigit _ isDigit, Option.isSome_some, Bool.or_true]
    · rfl
  simp only [readMagnitude, whole, spelled.groupedDigits?_eq, List.length_map,
    not_lt.mpr short, lt_irrefl, if_false, digitsValue]

/-- Grouped digits of which none is from another script are spelled digits. -/
theorem of_groupedDigits? {values : List Nat}
    (read : groupedDigits? decimalDigit? characters = some values)
    (areDigits : ∀ digit ∈ ungrouped characters, digit.isDigit = true) :
    SpellsDigits characters (ungrouped characters) := by
  induction characters using groupedDigits?.induct generalizing values with
  | case1 => cases read
  | case2 last =>
    obtain ⟨value, digit, -⟩ := Option.map_eq_some_iff.mp read
    have unmarked : ungrouped [last] = [last] :=
      ungrouped_cons (ne_underscore_of_decimalDigit? digit) []
    rw [unmarked] at areDigits ⊢
    exact .last (areDigits last List.mem_cons_self)
  | case3 first rest inductionHypothesis =>
    simp only [groupedDigits?, Option.bind_eq_bind, Option.bind_eq_some_iff] at read
    obtain ⟨value, digit, others, readOthers, -⟩ := read
    rw [ungrouped_cons (ne_underscore_of_decimalDigit? digit), ungrouped_underscore] at areDigits ⊢
    obtain ⟨isDigit, othersDigits⟩ := List.forall_mem_cons.mp areDigits
    exact .apart isDigit (inductionHypothesis readOthers othersDigits)
  | case4 first rest notSingle notGrouped inductionHypothesis =>
    simp only [groupedDigits?, Option.bind_eq_bind, Option.bind_eq_some_iff] at read
    obtain ⟨value, digit, others, readOthers, -⟩ := read
    rw [ungrouped_cons (ne_underscore_of_decimalDigit? digit)] at areDigits ⊢
    obtain ⟨isDigit, othersDigits⟩ := List.forall_mem_cons.mp areDigits
    exact .next isDigit (inductionHypothesis readOthers othersDigits)

/-! ### Spelled digits in a document -/

theorem wellSeparated_cons {first : Char} (notUnderscore : first ≠ '_') (rest : List Char) :
    wellSeparated (first :: rest) = wellSeparated rest := by
  rw [wellSeparated]
  · exact fun same => absurd same notUnderscore
  · exact fun _ same => absurd same notUnderscore

theorem wellSeparated_underscore {first : Char} (notUnderscore : first ≠ '_') (rest : List Char) :
    wellSeparated ('_' :: first :: rest) = wellSeparated (first :: rest) := by
  rw [wellSeparated]
  · exact fun _ => List.cons_ne_nil first rest
  · exact fun _ _ same => notUnderscore (List.cons.inj same).1

theorem wellSeparated_eq (spelled : SpellsDigits characters digits) :
    wellSeparated characters = true := by
  induction spelled with
  | last isDigit => exact wellSeparated_cons (ne_of_isDigit isDigit (by decide)) []
  | next isDigit _ inductionHypothesis =>
    rw [wellSeparated_cons (ne_of_isDigit isDigit (by decide)), inductionHypothesis]
  | apart isDigit others inductionHypothesis =>
    obtain ⟨first, rest, _, rfl, -, isFirst⟩ := others.exists_first
    rw [wellSeparated_cons (ne_of_isDigit isDigit (by decide)),
      wellSeparated_underscore (ne_of_isDigit isFirst (by decide)), inductionHypothesis]

theorem withoutSeparators?_eq (spelled : SpellsDigits characters digits) :
    withoutSeparators? characters = some digits := by
  obtain ⟨first, rest, _, rfl, -, isDigit⟩ := spelled.exists_first
  have notUnderscore : first ≠ '_' := ne_of_isDigit isDigit (by decide)
  rw [withoutSeparators?, if_neg, ← ungrouped, spelled.ungrouped_eq]
  simp [spelled.wellSeparated_eq, notUnderscore]

/-- What is left without the zeros at the start spells digits, or the digits were all zeros. -/
theorem dropWhile_isLeading (spelled : SpellsDigits characters digits) :
    (characters.dropWhile isLeading = [] ∧ characters.getLast? = some '0') ∨
      ∃ left, SpellsDigits (characters.dropWhile isLeading) left ∧ left.head? ≠ some '0' ∧
        left.length ≤ digits.length := by
  have kept {digit : Char} (isDigit : digit.isDigit = true) (notZero : digit ≠ '0')
      (rest : List Char) : (digit :: rest).dropWhile isLeading = digit :: rest := by
    have notUnderscore := ne_of_isDigit isDigit (by decide : '_'.isDigit = false)
    exact List.dropWhile_cons_of_neg (by simp [isLeading, notZero, notUnderscore])
  induction spelled with
  | @last digit isDigit =>
    by_cases zero : digit = '0'
    · subst zero
      exact .inl ⟨rfl, rfl⟩
    · rw [kept isDigit zero]
      exact .inr ⟨[digit], .last isDigit, fun same => zero (Option.some.inj same), le_rfl⟩
  | @next digit characters digits isDigit others inductionHypothesis =>
    by_cases zero : digit = '0'
    · subst zero
      obtain ⟨first, rest, _, rfl, -, -⟩ := others.exists_first
      rw [List.dropWhile_cons_of_pos (by decide), List.getLast?_cons_cons]
      refine inductionHypothesis.imp_right ?_
      rintro ⟨left, spelled, notZero, short⟩
      exact ⟨left, spelled, notZero, short.trans (Nat.le_succ _)⟩
    · rw [kept isDigit zero]
      exact .inr ⟨digit :: digits, .next isDigit others, fun same => zero (Option.some.inj same),
        le_rfl⟩
  | @apart digit characters digits isDigit others inductionHypothesis =>
    by_cases zero : digit = '0'
    · subst zero
      obtain ⟨first, rest, _, rfl, -, -⟩ := others.exists_first
      rw [List.dropWhile_cons_of_pos (by decide), List.dropWhile_cons_of_pos (by decide),
        List.getLast?_cons_cons, List.getLast?_cons_cons]
      refine inductionHypothesis.imp_right ?_
      rintro ⟨left, spelled, notZero, short⟩
      exact ⟨left, spelled, notZero, short.trans (Nat.le_succ _)⟩
    · rw [kept isDigit zero]
      exact .inr ⟨digit :: digits, .apart isDigit others, fun same => zero (Option.some.inj same),
        le_rfl⟩

theorem withoutLeadingZeros?_of_ne {first : Char} (isDigit : first.isDigit = true)
    (notZero : first ≠ '0') (rest : List Char) :
    withoutLeadingZeros? (first :: rest) = some (first :: rest) := by
  rw [withoutLeadingZeros?, if_pos isDigit]
  exact notZero

theorem withoutLeadingZeros?_zeros {rest : List Char} (zeros : rest.dropWhile isLeading = []) :
    withoutLeadingZeros? ('0' :: rest) = some [rest.getLastD '0'] := by
  have nothing : rest.dropWhile (fun character => character == '0' || character == '_') = [] :=
    zeros
  rw [withoutLeadingZeros?, nothing]

theorem withoutLeadingZeros?_zero {first : Char} {rest others : List Char}
    (left : rest.dropWhile isLeading = first :: others) (isDigit : first.isDigit = true) :
    withoutLeadingZeros? ('0' :: rest) = some (first :: others) := by
  have some : rest.dropWhile (fun character => character == '0' || character == '_') =
      first :: others := left
  rw [withoutLeadingZeros?, some]
  dsimp only
  rw [if_neg (ne_of_isDigit isDigit (by decide)), if_pos (by rw [isDigit, Bool.true_or])]

/-- What is read after the zeros at the start: digits without a zero at their start, or one zero. -/
theorem exists_withoutLeadingZeros? (spelled : SpellsDigits characters digits) :
    ∃ stripped left, withoutLeadingZeros? characters = some stripped ∧
      SpellsDigits stripped left ∧ (left = ['0'] ∨ left.head? ≠ some '0') ∧
      left.length ≤ digits.length := by
  obtain ⟨first, rest, others, rfl, rfl, isDigit⟩ := spelled.exists_first
  by_cases zero : first = '0'
  · subst zero
    have after := spelled.dropWhile_isLeading
    rw [List.dropWhile_cons_of_pos (by decide), List.getLast?_cons] at after
    rcases after with ⟨zeros, last⟩ | ⟨left, spelledLeft, notZero, short⟩
    · refine ⟨['0'], ['0'], ?_, .last rfl, .inl rfl, Nat.succ_le_succ (Nat.zero_le _)⟩
      rw [withoutLeadingZeros?_zeros zeros, List.getLastD_eq_getLast?, Option.some.inj last]
    · obtain ⟨next, kept, _, same, -, isNext⟩ := spelledLeft.exists_first
      rw [same] at spelledLeft
      exact ⟨_, left, withoutLeadingZeros?_zero same isNext, spelledLeft, .inr notZero, short⟩
  · exact ⟨_, first :: others, withoutLeadingZeros?_of_ne isDigit zero rest, spelled,
      .inr fun same => zero (Option.some.inj same), le_rfl⟩

end SpellsDigits

/-- Digits without a zero at their start are in the form of the wire. -/
theorem exists_wireNatural {digits : List Char} (areDigits : ∀ digit ∈ digits, digit.isDigit = true)
    (nonempty : digits ≠ []) (noZero : digits = ['0'] ∨ digits.head? ≠ some '0')
    (short : digits.length ≤ digitLimit) : ∃ value, wireNatural digits = .ok value := by
  rw [wireNatural, List.takeWhile_eq_self_iff.mpr areDigits]
  split
  · exact absurd rfl nonempty
  · rcases noZero with same | other
    · cases same
    · exact absurd rfl other
  · rw [if_neg (not_lt.mpr short), if_neg (lt_irrefl _)]
    exact ⟨_, rfl⟩

/-- Spelled digits are in the form of the wire or are not, but are never too many for it. -/
theorem SpellsDigits.wireNatural_eq {characters digits : List Char}
    (spelled : SpellsDigits characters digits) (short : digits.length ≤ digitLimit) :
    wireNatural characters = .error .malformed ∨ ∃ value, wireNatural characters = .ok value := by
  have plain : ungrouped (characters.takeWhile Char.isDigit) = characters.takeWhile Char.isDigit :=
    ungrouped_of_isDigit fun _ => List.mem_takeWhile_imp
  have run : (characters.takeWhile Char.isDigit).length ≤ digitLimit := by
    rw [← plain]
    refine ((List.takeWhile_sublist _).filter _).length_le.trans ?_
    rw [← ungrouped, spelled.ungrouped_eq]
    exact short
  rw [wireNatural]
  split
  · exact .inl rfl
  · exact .inl rfl
  · rw [if_neg (not_lt.mpr run)]
    split
    · exact .inl rfl
    · exact .inr ⟨_, rfl⟩

theorem SpellsDigits.exists_looseInteger {characters digits : List Char}
    (spelled : SpellsDigits characters digits) (short : digits.length ≤ digitLimit) :
    ∃ value, looseInteger characters = .ok value := by
  obtain ⟨stripped, left, found, spelledLeft, noZero, shorter⟩ :=
    spelled.exists_withoutLeadingZeros?
  obtain ⟨first, rest, others, rfl, rfl, isDigit⟩ := spelledLeft.exists_first
  have settled : (withoutLeadingZeros? characters).bind
      (withoutSeparators? ∘ withoutZeroFraction) = some (first :: others) := by
    rw [found, Option.bind_some, Function.comp_apply,
      withoutZeroFraction_of_notMem (spelledLeft.notMem (by decide) (by decide)),
      spelledLeft.withoutSeparators?_eq]
  obtain ⟨value, read⟩ := exists_wireNatural spelledLeft.areDigits (List.cons_ne_nil first others)
    noZero (shorter.trans short)
  rw [looseInteger, settled]
  split
  · rename_i same
    exact absurd (List.cons.inj (Option.some.inj same)).1 (ne_of_isDigit isDigit (by decide))
  · rename_i same
    obtain rfl := Option.some.inj same
    exact ⟨_, congrArg (Except.map Int.ofNat) read⟩
  · contradiction

/-! ### Spelled integers -/

/-- How an integer is spelled: digits behind a sign or none, with any blanks around them. -/
def SpellsInteger (characters : List Char) (value : Int) : Prop :=
  ∃ before sign body digits after negative, characters = before ++ (sign ++ body ++ after) ∧
    (∀ character ∈ before, isSpace character = true) ∧
    (∀ character ∈ after, isSpace character = true) ∧ IsSign sign negative ∧
    SpellsDigits body digits ∧ digits.length ≤ digitLimit ∧
    value = signed negative (digitsValue digits)

/-- How the text of a spelled integer is taken apart. -/
theorem splitSign_trim {before sign body digits after : List Char} {negative : Bool}
    (blanksBefore : ∀ character ∈ before, isSpace character = true)
    (blanksAfter : ∀ character ∈ after, isSpace character = true) (isSign : IsSign sign negative)
    (spelled : SpellsDigits body digits) :
    splitSign (trim isSpace (before ++ (sign ++ body ++ after))) = (negative, body) := by
  rw [trim_surrounded blanksBefore blanksAfter, Operator.splitSign_append isSign
    (spelled.notMem (by decide) (by decide)) (spelled.notMem (by decide) (by decide))]
  intro character member
  rcases List.mem_append.mp member with inSign | inBody
  · cases isSign with
    | unwritten => cases inSign
    | plus | minus =>
      obtain rfl := List.mem_singleton.mp inSign
      decide
  · rcases spelled.isDigit_or_eq inBody with isDigit | rfl
    · exact isSpace_eq_false_of_isDigit isDigit
    · decide

theorem readInteger_of_spellsInteger {written : String} {value : Int}
    (spelled : SpellsInteger written.toList value) : readInteger written = .ok value := by
  obtain ⟨before, sign, body, digits, after, negative, parts, blanksBefore, blanksAfter, isSign,
    spelledBody, short, rfl⟩ := spelled
  rw [readInteger, readIntegerOf, parts, splitSign_trim blanksBefore blanksAfter isSign spelledBody]
  dsimp only
  rw [spelledBody.readMagnitude_eq short]
  rfl

theorem exists_integerOfText {written : String} {value : Int}
    (spelled : SpellsInteger written.toList value) :
    ∃ value, integerOfText written = .ok value := by
  obtain ⟨before, sign, body, digits, after, negative, parts, blanksBefore, blanksAfter, isSign,
    spelledBody, short, -⟩ := spelled
  rw [integerOfText, parts, splitSign_trim blanksBefore blanksAfter isSign spelledBody]
  dsimp only
  obtain ⟨loose, readLoose⟩ := spelledBody.exists_looseInteger short
  rcases spelledBody.wireNatural_eq short with malformed | ⟨natural, readNatural⟩
  · rw [malformed, readLoose]
    exact ⟨_, rfl⟩
  · rw [readNatural]
    exact ⟨_, rfl⟩

/-- A text that both readers take spells the integer. -/
theorem spellsInteger_of_read {written : String} {value value' : Int}
    (converted : readInteger written = .ok value) (read : integerOfText written = .ok value') :
    SpellsInteger written.toList value := by
  rw [readInteger, readIntegerOf] at converted
  dsimp only at converted
  obtain ⟨magnitude, readMagnitude, rfl⟩ := map_eq_ok.mp converted
  obtain ⟨values, grouped, short, rfl, -⟩ := groupedDigits?_of_readMagnitude readMagnitude
  have isMagnitude := isMagnitude_of_readMagnitude readMagnitude
  have areDigits := (isMagnitude.eq_of_integerOfText read).1
  obtain ⟨before, after, parts, blanksBefore, blanksAfter⟩ := exists_blanks isSpace written.toList
  obtain ⟨sign, isSign, signed⟩ := Operator.exists_sign (trim isSpace written.toList)
  refine ⟨before, sign, _, _, after, _, ?_, blanksBefore, blanksAfter, isSign,
    .of_groupedDigits? grouped areDigits, ?_, ?_⟩
  · rw [← signed]
    exact parts
  · have read := mapM_ungrouped grouped
    rw [mapM_decimalDigit? areDigits] at read
    rw [← Option.some.inj read, List.length_map] at short
    exact short
  · rw [isMagnitude.eq_digitsValue areDigits]

/-! ### Values that give an integer -/

/-- The values that stand for an integer: an integer, a truth value, a whole number of sixty-four
bits, and a text that spells one. -/
inductive GivesInteger : Value → Int → Prop
  | int (value : Int) : GivesInteger (.int value) value
  | bool (truth : Bool) : GivesInteger (.bool truth) (if truth then 1 else 0)
  | real {number : Binary64} {whole : Int} (found : number.toInt? = some whole)
    (inside : insideWord whole = true) : GivesInteger (.real number) whole
  | text {written : String} {value : Int} (plain : holdsHalf written = false)
    (spelled : SpellsInteger written.toList value) : GivesInteger (.text written) value

theorem plain_of_whole {written text : String} (read : whole written = .ok text) :
    holdsHalf written = false := by
  unfold whole at read
  split at read
  · cases read
  · rename_i plain
    exact Bool.eq_false_iff.mpr plain

theorem integer_real_iff {number : Binary64} {value : Int} :
    integer (.real number) = .ok value ↔
      number.toInt? = some value ∧ insideWord value = true := by
  cases number with
  | notANumber | infinite =>
    constructor
    · intro read
      cases read
    · rintro ⟨found, -⟩
      cases found
  | finite negative significand exponent =>
    rw [integer, if_neg (by rintro ⟨⟩)]
    cases (Binary64.finite negative significand exponent).toInt? with
    | none =>
      constructor
      · intro read
        cases read
      · rintro ⟨found, -⟩
        cases found
    | some whole =>
      dsimp only
      split
      · rename_i inside
        constructor
        · intro read
          obtain rfl := Except.ok.inj read
          exact ⟨rfl, inside⟩
        · rintro ⟨same, -⟩
          exact congrArg Except.ok (Option.some.inj same)
      · rename_i outside
        constructor
        · intro read
          cases read
        · rintro ⟨same, inside⟩
          exact absurd (Option.some.inj same ▸ inside) outside

namespace GivesInteger

variable {value : Value} {number : Int}

theorem convertInteger_eq (gives : GivesInteger value number) :
    convertInteger value = .ok number := by
  cases gives with
  | int | bool => rfl
  | text plain spelled => exact mapError_eq_ok.mpr (readInteger_of_spellsInteger spelled)
  | @real given _ found inside =>
    have cut := truncated?_of_toInt? found
    cases given with
    | notANumber | infinite => cases found
    | finite => exact congrArg (fun cut? => Except.ok (cut?.getD 0)) cut

theorem integer_eq (gives : GivesInteger value number) : integer value = .ok number := by
  cases gives with
  | int | bool => rfl
  | real found inside => exact integer_real_iff.mpr ⟨found, inside⟩
  | @text written _ plain spelled =>
    have converted := (GivesInteger.text plain spelled).convertInteger_eq
    obtain ⟨other, found⟩ := exists_integerOfText spelled
    have taken : integer (.text written) = .ok other := by
      rw [integer, whole_of_plain plain]
      exact found
    obtain rfl := integer_eq_of_convertInteger converted taken
    exact taken

theorem ne_null (gives : GivesInteger value number) : value ≠ .null := by
  rintro rfl
  cases gives

end GivesInteger

/-- Both readers of integers take the values that stand for an integer, and no others. -/
theorem givesInteger_iff {value : Value} {number : Int} :
    GivesInteger value number ↔ convertInteger value = .ok number ∧ integer value = .ok number := by
  refine ⟨fun gives => ⟨gives.convertInteger_eq, gives.integer_eq⟩, fun ⟨converted, taken⟩ => ?_⟩
  cases value with
  | null | list | object => cases taken
  | int value =>
    obtain rfl := Except.ok.inj taken
    exact .int _
  | bool truth =>
    obtain rfl := Except.ok.inj taken
    exact .bool truth
  | real value =>
    obtain ⟨found, inside⟩ := integer_real_iff.mp taken
    exact .real found inside
  | text written =>
    obtain ⟨text, plain, found⟩ := bind_eq_ok.mp taken
    obtain rfl := whole_eq_ok plain
    exact .text (plain_of_whole plain) (spellsInteger_of_read (mapError_eq_ok.mp converted) found)

end Schema

end WorkQuery
