/-
This file compares the two readers of integers. One turns any value into an integer, as the names of
custom-field columns are derived; the other reads the members of documents. They refuse different
values, but where both read a value they read the same integer (`integer_eq_of_convertInteger`):
what both take as a text is a run of ASCII digits, in which underscores and zeros at the start count
for nothing.
-/

import WorkQuery.Proofs.NumberText
import WorkQuery.Schema.Scalar

namespace WorkQuery.Schema

open Json Number Text

/-! ### Magnitudes -/

/-- The characters other than underscores. -/
def ungrouped (characters : List Char) : List Char :=
  characters.filter (· != '_')

theorem ungrouped_cons {character : Char} (notUnderscore : character ≠ '_') (rest : List Char) :
    ungrouped (character :: rest) = character :: ungrouped rest :=
  List.filter_cons_of_pos (bne_iff_ne.mpr notUnderscore)

theorem ungrouped_underscore (rest : List Char) : ungrouped ('_' :: rest) = ungrouped rest :=
  List.filter_cons_of_neg (by decide)

theorem ungrouped_of_isDigit {digits : List Char}
    (areDigits : ∀ digit ∈ digits, digit.isDigit = true) : ungrouped digits = digits :=
  List.filter_eq_self.mpr fun digit member =>
    bne_iff_ne.mpr (ne_of_isDigit (areDigits digit member) (by decide))

theorem ne_underscore_of_decimalDigit? {character : Char} {value : Nat}
    (digit : decimalDigit? character = some value) : character ≠ '_' := by
  rintro rfl
  have none : decimalDigit? '_' = none := by decide
  rw [none] at digit
  cases digit

/-- Underscores do not count among grouped digits. -/
theorem mapM_ungrouped {characters : List Char} {values : List Nat}
    (read : groupedDigits? decimalDigit? characters = some values) :
    (ungrouped characters).mapM decimalDigit? = some values := by
  induction characters using groupedDigits?.induct generalizing values with
  | case1 => cases read
  | case2 last =>
    obtain ⟨value, digit, rfl⟩ := Option.map_eq_some_iff.mp read
    rw [ungrouped_cons (ne_underscore_of_decimalDigit? digit), List.mapM_cons, digit]
    rfl
  | case3 first rest inductionHypothesis =>
    simp only [groupedDigits?, Option.bind_eq_bind, Option.bind_eq_some_iff, Option.pure_def,
      Option.some.injEq] at read
    obtain ⟨value, digit, others, readOthers, rfl⟩ := read
    rw [ungrouped_cons (ne_underscore_of_decimalDigit? digit), ungrouped_underscore,
      List.mapM_cons, digit, inductionHypothesis readOthers]
    rfl
  | case4 first rest notSingle notGrouped inductionHypothesis =>
    simp only [groupedDigits?, Option.bind_eq_bind, Option.bind_eq_some_iff, Option.pure_def,
      Option.some.injEq] at read
    obtain ⟨value, digit, others, readOthers, rfl⟩ := read
    rw [ungrouped_cons (ne_underscore_of_decimalDigit? digit), List.mapM_cons, digit,
      inductionHypothesis readOthers]
    rfl

/-- What is known of characters that are read as a magnitude. -/
structure IsMagnitude (characters : List Char) (value : Nat) : Prop where
  digits : ∃ values, (ungrouped characters).mapM decimalDigit? = some values ∧
    value = ofDigits values
  plain : ∀ character ∈ characters, character = '_' ∨ (decimalDigit? character).isSome = true

/-- Characters that are read as a magnitude are grouped digits, and not too many of them. -/
theorem groupedDigits?_of_readMagnitude {characters : List Char} {value : Nat}
    (read : readMagnitude characters = .ok value) :
    ∃ values, groupedDigits? decimalDigit? characters = some values ∧
      values.length ≤ digitLimit ∧ value = ofDigits values ∧
      ∀ character ∈ characters, character = '_' ∨ (decimalDigit? character).isSome = true := by
  simp only [readMagnitude] at read
  split at read
  · cases read
  · rename_i values found
    split at read
    · cases read
    · rename_i short
      split at read
      · cases read
      · rename_i whole
        obtain rfl := Except.ok.inj read
        have same := (List.takeWhile_prefix _).eq_of_length_le (not_lt.mp whole)
        rw [same] at found
        refine ⟨values, found, not_lt.mp short, rfl, fun character member => ?_⟩
        rw [← same] at member
        simpa using List.mem_takeWhile_imp member

theorem isMagnitude_of_readMagnitude {characters : List Char} {value : Nat}
    (read : readMagnitude characters = .ok value) : IsMagnitude characters value := by
  obtain ⟨values, found, -, same, plain⟩ := groupedDigits?_of_readMagnitude read
  exact ⟨⟨values, mapM_ungrouped found, same⟩, plain⟩

theorem IsMagnitude.notMem {characters : List Char} {value : Nat}
    (magnitude : IsMagnitude characters value) {mark : Char} (notDigit : decimalDigit? mark = none)
    (notUnderscore : mark ≠ '_') : mark ∉ characters := by
  intro member
  rcases magnitude.plain mark member with same | digit
  · exact notUnderscore same
  · rw [notDigit] at digit
    cases digit

/-- A magnitude in ASCII digits is their value. -/
theorem IsMagnitude.eq_digitsValue {characters : List Char} {value : Nat}
    (magnitude : IsMagnitude characters value)
    (areDigits : ∀ digit ∈ ungrouped characters, digit.isDigit = true) :
    value = digitsValue (ungrouped characters) := by
  obtain ⟨values, read, rfl⟩ := magnitude.digits
  rw [mapM_decimalDigit? areDigits] at read
  rw [digitsValue, Option.some.inj read]

/-! ### The form of the wire -/

theorem eq_digitsValue_of_wireNatural {characters : List Char} {value : Nat}
    (read : wireNatural characters = .ok value) :
    (∀ digit ∈ characters, digit.isDigit = true) ∧ value = digitsValue characters := by
  simp only [wireNatural] at read
  split at read
  · cases read
  · cases read
  · split at read
    · cases read
    · split at read
      · cases read
      · rename_i whole
        have same := (List.takeWhile_prefix _).eq_of_length_le (not_lt.mp whole)
        rw [same] at read
        exact ⟨List.takeWhile_eq_self_iff.mp same, (Except.ok.inj read).symm⟩

/-- A magnitude that is read in the form of the wire is read as the same number. -/
theorem eq_of_wireNatural {characters : List Char} {value value' : Nat}
    (magnitude : IsMagnitude characters value) (read : wireNatural characters = .ok value') :
    (∀ digit ∈ ungrouped characters, digit.isDigit = true) ∧ value' = value := by
  obtain ⟨areDigits, rfl⟩ := eq_digitsValue_of_wireNatural read
  have plain := ungrouped_of_isDigit areDigits
  rw [plain, magnitude.eq_digitsValue (plain.symm ▸ areDigits), plain]
  exact ⟨areDigits, rfl⟩

/-! ### Zeros at the start -/

/-- Whether a character is left out at the start of a number. -/
def isLeading (character : Char) : Bool :=
  character == '0' || character == '_'

theorem eq_zeros_of_isLeading {characters : List Char}
    (leading : ∀ character ∈ characters, isLeading character = true) :
    ∃ count : Nat, ungrouped characters = List.replicate count '0' := by
  refine ⟨_, List.eq_replicate_of_mem fun character member => ?_⟩
  obtain ⟨inside, notUnderscore⟩ := List.mem_filter.mp member
  have either := leading character inside
  rw [isLeading, Bool.or_eq_true, beq_iff_eq, beq_iff_eq] at either
  exact either.resolve_right (bne_iff_ne.mp notUnderscore)

theorem ungrouped_append (first second : List Char) :
    ungrouped (first ++ second) = ungrouped first ++ ungrouped second :=
  List.filter_append _ _

/-- What is left out at the start of a number is zeros and underscores. -/
theorem exists_zeros_of_withoutLeadingZeros? {characters stripped : List Char}
    (found : withoutLeadingZeros? characters = some stripped) (noPoint : '.' ∉ characters)
    (notUnderscore : stripped.head? ≠ some '_') :
    ∃ count : Nat, ungrouped characters = List.replicate count '0' ++ ungrouped stripped := by
  unfold withoutLeadingZeros? at found
  split at found
  · rename_i rest
    split at found
    · rename_i nothing
      obtain rfl := Option.some.inj found
      have leading : ∀ character ∈ rest, isLeading character = true :=
        List.dropWhile_eq_nil_iff.mp nothing
      obtain ⟨count, zeros⟩ := eq_zeros_of_isLeading leading
      have last : rest.getLastD '0' = '0' := by
        cases rest using List.reverseRecOn with
        | nil => rfl
        | append_singleton before last =>
          rw [List.getLastD_concat] at notUnderscore ⊢
          have either := leading last (List.mem_append_right _ List.mem_cons_self)
          rw [isLeading, Bool.or_eq_true, beq_iff_eq, beq_iff_eq] at either
          exact either.resolve_right fun same => notUnderscore (congrArg some same)
      refine ⟨count, ?_⟩
      rw [ungrouped_cons (by decide), zeros, last]
      exact List.replicate_succ'
    · rename_i next others left
      have leading : ∀ character ∈ rest.takeWhile isLeading, isLeading character = true :=
        fun _ member => List.mem_takeWhile_imp member
      obtain ⟨count, zeros⟩ := eq_zeros_of_isLeading leading
      have parts : rest = rest.takeWhile isLeading ++ next :: others := by
        rw [← left]
        exact List.takeWhile_append_dropWhile.symm
      have notPoint : next ≠ '.' := by
        rintro rfl
        rw [parts] at noPoint
        simp at noPoint
      rw [if_neg notPoint] at found
      split at found
      · obtain rfl := Option.some.inj found
        refine ⟨count + 1, ?_⟩
        rw [ungrouped_cons (by decide), parts, ungrouped_append, zeros]
        rfl
      · cases found
  · split at found
    · exact ⟨0, congrArg ungrouped (Option.some.inj found)⟩
    · cases found
  · cases found

/-- Without a point nothing is taken for a fraction. -/
theorem withoutZeroFraction_of_notMem {characters : List Char} (noPoint : '.' ∉ characters) :
    withoutZeroFraction characters = characters := by
  have nothing : characters.dropWhile (· != '.') = [] :=
    List.dropWhile_eq_nil_iff.mpr fun character member =>
      bne_iff_ne.mpr fun same => noPoint (same ▸ member)
  rw [withoutZeroFraction, nothing]
  rfl

theorem withoutSeparators?_eq_some {characters found : List Char}
    (read : withoutSeparators? characters = some found) :
    characters.head? ≠ some '_' ∧ found = ungrouped characters := by
  unfold withoutSeparators? at read
  split at read
  · cases read
  · rename_i separated
    rw [Bool.not_eq_true, Bool.or_eq_false_iff, decide_eq_false_iff_not] at separated
    exact ⟨separated.1, (Option.some.inj read).symm⟩

theorem mem_of_withoutLeadingZeros? {characters stripped : List Char}
    (found : withoutLeadingZeros? characters = some stripped) (noPoint : '.' ∉ characters)
    {character : Char} (member : character ∈ stripped) :
    character = '0' ∨ character = '_' ∨ character ∈ characters := by
  unfold withoutLeadingZeros? at found
  split at found
  · rename_i rest
    split at found
    · obtain rfl := Option.some.inj found
      rw [List.mem_singleton.mp member]
      cases rest using List.reverseRecOn with
      | nil => exact .inl rfl
      | append_singleton before last =>
        rw [List.getLastD_concat]
        exact .inr (.inr (by simp))
    · rename_i next others left
      have suffix : next :: others <:+ rest := left ▸ List.dropWhile_suffix _
      have notPoint : next ≠ '.' := by
        rintro rfl
        exact noPoint (List.mem_cons_of_mem _ (suffix.subset List.mem_cons_self))
      rw [if_neg notPoint] at found
      split at found
      · obtain rfl := Option.some.inj found
        exact .inr (.inr (List.mem_cons_of_mem _ (suffix.subset member)))
      · cases found
  · split at found
    · obtain rfl := Option.some.inj found
      exact .inr (.inr member)
    · cases found
  · cases found

/-- A magnitude that is read in any other form is read as the same number. -/
theorem eq_of_looseInteger {characters : List Char} {value : Nat} {value' : Int}
    (magnitude : IsMagnitude characters value) (read : looseInteger characters = .ok value') :
    (∀ digit ∈ ungrouped characters, digit.isDigit = true) ∧ value' = value := by
  have noPoint : '.' ∉ characters := magnitude.notMem (by decide) (by decide)
  have noHyphen : '-' ∉ characters := magnitude.notMem (by decide) (by decide)
  have parts {found : List Char}
      (settled : (withoutLeadingZeros? characters).bind
        (withoutSeparators? ∘ withoutZeroFraction) = some found) :
      '-' ∉ found ∧ ∃ count : Nat, ungrouped characters = List.replicate count '0' ++ found := by
    obtain ⟨stripped, isStripped, separated⟩ := Option.bind_eq_some_iff.mp settled
    have strippedPoint : '.' ∉ stripped := fun member => by
      simpa [noPoint] using mem_of_withoutLeadingZeros? isStripped noPoint member
    have strippedHyphen : '-' ∉ stripped := fun member => by
      simpa [noHyphen] using mem_of_withoutLeadingZeros? isStripped noPoint member
    rw [Function.comp_apply, withoutZeroFraction_of_notMem strippedPoint] at separated
    obtain ⟨notUnderscore, rfl⟩ := withoutSeparators?_eq_some separated
    exact ⟨fun member => strippedHyphen (List.mem_of_mem_filter member),
      exists_zeros_of_withoutLeadingZeros? isStripped noPoint notUnderscore⟩
  unfold looseInteger at read
  split at read
  · rename_i digits settled
    exact absurd List.mem_cons_self (parts settled).1
  · rename_i found _ settled
    obtain ⟨number, natural, rfl⟩ := map_eq_ok.mp read
    obtain ⟨areDigits, rfl⟩ := eq_digitsValue_of_wireNatural natural
    obtain ⟨-, count, same⟩ := parts settled
    have allDigits : ∀ digit ∈ ungrouped characters, digit.isDigit = true := by
      rw [same]
      exact fun digit member =>
        (List.mem_append.mp member).elim isDigit_of_mem_zeros (areDigits digit)
    rw [magnitude.eq_digitsValue allDigits, same, digitsValue_zeros_append]
    exact ⟨same ▸ allDigits, rfl⟩
  · cases read

/-! ### Integers -/

/-- A magnitude behind a sign is read as the same integer, if it is read at all. -/
theorem IsMagnitude.eq_of_integerOfText {written : String} {magnitude : Nat} {value : Int}
    (isMagnitude : IsMagnitude (splitSign (trim isSpace written.toList)).2 magnitude)
    (read : integerOfText written = .ok value) :
    (∀ digit ∈ ungrouped (splitSign (trim isSpace written.toList)).2, digit.isDigit = true) ∧
      value = signed (splitSign (trim isSpace written.toList)).1 magnitude := by
  rw [integerOfText] at read
  dsimp only at read
  split at read
  · rename_i inner found
    have same : (∀ digit ∈ ungrouped (splitSign (trim isSpace written.toList)).2,
        digit.isDigit = true) ∧ inner = magnitude := by
      split at found
      · exact eq_of_looseInteger isMagnitude found
      · obtain ⟨natural, readNatural, rfl⟩ := map_eq_ok.mp found
        obtain ⟨areDigits, same⟩ := eq_of_wireNatural isMagnitude readNatural
        exact ⟨areDigits, congrArg Int.ofNat same⟩
    rw [← Except.ok.inj read, same.2]
    exact ⟨same.1, rfl⟩
  · cases read
  · cases read

theorem integerOfText_eq_of_readInteger {written : String} {value value' : Int}
    (converted : readInteger written = .ok value) (read : integerOfText written = .ok value') :
    value' = value := by
  obtain ⟨magnitude, readMagnitude, rfl⟩ := map_eq_ok.mp converted
  exact ((isMagnitude_of_readMagnitude readMagnitude).eq_of_integerOfText read).2

theorem truncated?_of_toInt? {number : Binary64} {whole : Int}
    (found : number.toInt? = some whole) :
    number.truncated? = some whole := by
  unfold Binary64.toInt? at found
  unfold Binary64.truncated?
  split at found
  · rename_i numerator denominator ratio
    rw [ratio]
    split at found
    · rename_i exact
      obtain rfl := Option.some.inj found
      exact congrArg some (Int.tdiv_eq_ediv_of_dvd (Int.dvd_of_emod_eq_zero exact))
    · cases found
  · cases found

/-- Where both readers of integers read a value, they read the same integer. -/
theorem integer_eq_of_convertInteger {value : Value} {number number' : Int}
    (converted : convertInteger value = .ok number) (read : integer value = .ok number') :
    number' = number := by
  cases value with
  | null | list items | object fields => cases read
  | bool truth => exact (Except.ok.inj read).symm.trans (Except.ok.inj converted)
  | int value => exact (Except.ok.inj read).symm.trans (Except.ok.inj converted)
  | text written =>
    obtain ⟨text, readText, read⟩ := bind_eq_ok.mp read
    have same : text = written := by
      unfold whole at readText
      split at readText
      · cases readText
      · exact (Except.ok.inj readText).symm
    exact integerOfText_eq_of_readInteger (mapError_eq_ok.mp converted) (same ▸ read)
  | real value =>
    rw [integer] at read
    split at read
    · cases read
    · rename_i finite
      split at read
      · cases read
      · rename_i whole found
        split at read
        · obtain rfl := Except.ok.inj read
          cases value with
          | notANumber | infinite => exact absurd rfl finite
          | finite negative significand exponent =>
            have cut : (Binary64.truncated? _).getD 0 = number := Except.ok.inj converted
            rw [truncated?_of_toInt? found] at cut
            exact cut
        · cases read

end WorkQuery.Schema
