/-
This file proves that written integers read back. `readInteger_integerText` says so for every
integer within the digit limit, and `natAbs_lt_of_readInteger` that no other integer is ever read,
so that whatever was read once can be written and read again.
-/

import Mathlib.Algebra.Ring.Nat
import Mathlib.Data.List.Induction
import Mathlib.Data.List.TakeWhile
import Mathlib.Order.Basic
import WorkQuery.Number.Reading
import WorkQuery.Proofs.Outcome

namespace WorkQuery.Number

open Text

/-! ### Values of digits -/

theorem digitsValue_eq_ofDigitChars (digits : List Char) :
    digitsValue digits = Nat.ofDigitChars 10 digits 0 := by
  rw [digitsValue, ofDigits, List.foldl_map, Nat.ofDigitChars_eq_foldl]

theorem digitsValue_append (first second : List Char) :
    digitsValue (first ++ second) =
      digitsValue first * 10 ^ second.length + digitsValue second := by
  rw [digitsValue_eq_ofDigitChars, Nat.ofDigitChars_append, Nat.ofDigitChars_eq_ofDigitChars_zero,
    ← digitsValue_eq_ofDigitChars, ← digitsValue_eq_ofDigitChars, Nat.mul_comm]

theorem digitsValue_replicate_zero (count : Nat) :
    digitsValue (List.replicate count '0') = 0 := by
  rw [digitsValue_eq_ofDigitChars, Nat.ofDigitChars_replicate_zero, Nat.mul_zero]

theorem digitsValue_toDigits (value : Nat) : digitsValue (Nat.toDigits 10 value) = value := by
  rw [digitsValue_eq_ofDigitChars, Nat.ofDigitChars_ten_toDigits]

theorem isDigit_of_mem_toDigits {value : Nat} {digit : Char}
    (member : digit ∈ Nat.toDigits 10 value) : digit.isDigit = true :=
  Nat.isDigit_of_mem_toDigits (by decide) (by decide) member

/-- A number stays below the power of ten that its digits leave room for. -/
theorem ofDigits_lt {digits : List Nat} (small : ∀ digit ∈ digits, digit ≤ 9) :
    ofDigits digits < 10 ^ digits.length := by
  induction digits using List.reverseRecOn with
  | nil => simp [ofDigits]
  | append_singleton digits digit inductionHypothesis =>
    have before : ofDigits digits < 10 ^ digits.length :=
      inductionHypothesis fun digit member => small digit (List.mem_append_left _ member)
    have last : digit ≤ 9 := small digit (List.mem_append_right _ (List.mem_singleton_self digit))
    rw [ofDigits_append_single, List.length_append, List.length_singleton, Nat.pow_succ]
    omega

/-- Numbers below a power of ten are written in as many digits. -/
theorem length_toDigits_le {value count : Nat} (positive : 0 < count)
    (small : value < 10 ^ count) : (Nat.toDigits 10 value).length ≤ count :=
  (Nat.length_toDigits_le_iff (by decide) positive).mpr small

/-! ### Digits are neither blanks nor signs -/

theorem toNat_of_isDigit {digit : Char} (isDigit : digit.isDigit = true) :
    48 ≤ digit.toNat ∧ digit.toNat ≤ 57 := by
  simpa [Char.isDigit, UInt32.le_iff_toNat_le] using isDigit

theorem isSpace_eq_false_of_isDigit {digit : Char} (isDigit : digit.isDigit = true) :
    isSpace digit = false := by
  have range := toNat_of_isDigit isDigit
  simp only [isSpace, Bool.or_eq_false_iff, Bool.and_eq_false_iff, decide_eq_false_iff_not,
    beq_eq_false_iff_ne]
  omega

theorem ne_of_isDigit {digit other : Char} (isDigit : digit.isDigit = true)
    (different : other.isDigit = false) : digit ≠ other := by
  rintro rfl
  rw [isDigit] at different
  contradiction

theorem decimalDigit?_le {character : Char} {value : Nat}
    (digit : decimalDigit? character = some value) : value ≤ 9 := by
  obtain ⟨start, found, rfl⟩ := Option.map_eq_some_iff.mp digit
  have within := List.find?_some found
  simp only [Bool.and_eq_true, decide_eq_true_eq] at within
  omega

theorem mapM_decimalDigit? {digits : List Char} (areDigits : ∀ digit ∈ digits, digit.isDigit) :
    digits.mapM decimalDigit? = some (digits.map fun digit => digit.toNat - '0'.toNat) := by
  induction digits with
  | nil => rfl
  | cons digit digits inductionHypothesis =>
    rw [List.mapM_cons, decimalDigit?_of_isDigit digit (areDigits digit List.mem_cons_self),
      inductionHypothesis fun digit member => areDigits digit (List.mem_cons_of_mem _ member)]
    rfl

theorem mapM_decimalDigit?_le {characters : List Char} {values : List Nat}
    (read : characters.mapM decimalDigit? = some values) : ∀ value ∈ values, value ≤ 9 := by
  induction characters generalizing values with
  | nil =>
    obtain rfl : [] = values := by simpa using read
    simp
  | cons character characters inductionHypothesis =>
    rw [List.mapM_cons] at read
    simp only [Option.bind_eq_bind, Option.bind_eq_some_iff, Option.pure_def,
      Option.some.injEq] at read
    obtain ⟨value, digit, rest, others, rfl⟩ := read
    intro other member
    rcases List.mem_cons.mp member with rfl | member
    · exact decimalDigit?_le digit
    · exact inductionHypothesis others other member

/-! ### Reading digits -/

theorem decimalDigit?_of_mem {digits : List Char} {values : List Nat}
    (read : digits.mapM decimalDigit? = some values) {digit : Char} (member : digit ∈ digits) :
    ∃ value, decimalDigit? digit = some value := by
  induction digits generalizing values with
  | nil => cases member
  | cons first digits inductionHypothesis =>
    rw [List.mapM_cons] at read
    obtain ⟨value, readFirst, others⟩ := Option.bind_eq_some_iff.mp read
    obtain ⟨rest, readRest, -⟩ := Option.bind_eq_some_iff.mp others
    rcases List.mem_cons.mp member with rfl | member
    · exact ⟨value, readFirst⟩
    · exact inductionHypothesis readRest member

theorem notMem_digits {digits : List Char} {values : List Nat} {character : Char}
    (read : digits.mapM decimalDigit? = some values) (other : decimalDigit? character = none) :
    character ∉ digits := by
  intro member
  obtain ⟨value, digit⟩ := decimalDigit?_of_mem read member
  rw [other] at digit
  cases digit

/-- Digits that no underscores group. -/
theorem groupedDigits?_of_mapM {digits : List Char} {values : List Nat} (nonempty : digits ≠ [])
    (read : digits.mapM decimalDigit? = some values) :
    groupedDigits? decimalDigit? digits = some values := by
  induction digits generalizing values with
  | nil => contradiction
  | cons digit digits inductionHypothesis =>
    have noUnderscore : '_' ∉ digit :: digits := notMem_digits read (by decide)
    rw [List.mapM_cons] at read
    obtain ⟨value, first, others⟩ := Option.bind_eq_some_iff.mp read
    obtain ⟨rest, readRest, same⟩ := Option.bind_eq_some_iff.mp others
    obtain rfl : value :: rest = values := Option.some.inj same
    cases digits with
    | nil =>
      obtain rfl : [] = rest := Option.some.inj readRest
      rw [groupedDigits?, first]
      rfl
    | cons next digits =>
      rw [groupedDigits?, first, inductionHypothesis (List.cons_ne_nil next digits) readRest]
      · rfl
      · exact List.cons_ne_nil next digits
      · rintro _ same
        exact noUnderscore (same ▸ List.mem_cons_of_mem _ List.mem_cons_self)

theorem groupedDigits?_le {characters : List Char} {values : List Nat}
    (read : groupedDigits? decimalDigit? characters = some values) :
    ∀ value ∈ values, value ≤ 9 := by
  induction characters using groupedDigits?.induct generalizing values with
  | case1 => simp [groupedDigits?] at read
  | case2 last =>
    obtain ⟨value, digit, rfl⟩ := Option.map_eq_some_iff.mp read
    simp [decimalDigit?_le digit]
  | case3 first rest inductionHypothesis =>
    simp only [groupedDigits?, Option.bind_eq_bind, Option.bind_eq_some_iff, Option.pure_def,
      Option.some.injEq] at read
    obtain ⟨value, digit, others, readOthers, rfl⟩ := read
    exact List.forall_mem_cons.mpr ⟨decimalDigit?_le digit, inductionHypothesis readOthers⟩
  | case4 first rest notSingle notGrouped inductionHypothesis =>
    simp only [groupedDigits?, Option.bind_eq_bind, Option.bind_eq_some_iff, Option.pure_def,
      Option.some.injEq] at read
    obtain ⟨value, digit, others, readOthers, rfl⟩ := read
    exact List.forall_mem_cons.mpr ⟨decimalDigit?_le digit, inductionHypothesis readOthers⟩

/-- A run of digits reads as its value unless it is too long. -/
theorem readMagnitude_of_mapM {digits : List Char} {values : List Nat} (nonempty : digits ≠ [])
    (read : digits.mapM decimalDigit? = some values) :
    readMagnitude digits =
      if digitLimit < values.length then .error (.tooManyDigits values.length)
      else .ok (ofDigits values) := by
  have whole : digits.takeWhile (fun character =>
      character == '_' || (decimalDigit? character).isSome) = digits := by
    refine List.takeWhile_eq_self_iff.mpr fun digit member => ?_
    obtain ⟨value, found⟩ := decimalDigit?_of_mem read member
    rw [found, Option.isSome_some, Bool.or_true]
  simp only [readMagnitude, whole, groupedDigits?_of_mapM nonempty read, lt_irrefl, if_false]

theorem readMagnitude_lt {characters : List Char} {value : Nat}
    (read : readMagnitude characters = .ok value) : value < 10 ^ digitLimit := by
  simp only [readMagnitude] at read
  split at read
  · contradiction
  · rename_i digits found
    split at read
    · contradiction
    · rename_i short
      split at read
      · contradiction
      · obtain rfl : ofDigits digits = value := Except.ok.inj read
        exact lt_of_lt_of_le (ofDigits_lt (groupedDigits?_le found))
          (Nat.pow_le_pow_right (by decide) (not_lt.mp short))

/-! ### Reading integers -/

/-- Nothing is trimmed where nothing is blank. -/
theorem trim_eq_self {blank : Char → Bool} {characters : List Char}
    (none : ∀ character ∈ characters, blank character = false) :
    trim blank characters = characters := by
  have start : ∀ some : List Char, (∀ character ∈ some, blank character = false) →
      some.dropWhile blank = some := by
    intro some none
    cases some with
    | nil => rfl
    | cons first rest =>
      exact List.dropWhile_cons_of_neg (by simp [none first List.mem_cons_self])
  rw [trim, trimEnd, start _ none, start, List.reverse_reverse]
  intro character member
  exact none character (List.mem_reverse.mp member)

theorem toList_naturalText (value : Nat) :
    (naturalText value).toList = Nat.toDigits 10 value := by
  rw [naturalText, String.toList_ofList]

theorem toList_integerText (value : Int) :
    (integerText value).toList =
      (if value < 0 then ['-'] else []) ++ Nat.toDigits 10 value.natAbs := by
  rw [integerText]
  split
  · rw [String.toList_append, toList_naturalText]
    rfl
  · rw [toList_naturalText, List.nil_append]

theorem integerText_ne_empty (value : Int) : integerText value ≠ "" := by
  intro empty
  have characters := congrArg String.toList empty
  rw [toList_integerText] at characters
  simp at characters

/-- The characters of a written integer. -/
theorem mem_integerText {value : Int} {character : Char}
    (member : character ∈ (integerText value).toList) :
    character = '-' ∨ character.isDigit = true := by
  rw [toList_integerText, List.mem_append] at member
  rcases member with sign | digit
  · split at sign
    · exact .inl (List.mem_singleton.mp sign)
    · contradiction
  · exact .inr (isDigit_of_mem_toDigits digit)

theorem splitSign_of_notMem {characters : List Char} (noMinus : '-' ∉ characters)
    (noPlus : '+' ∉ characters) : splitSign characters = (false, characters) := by
  rw [splitSign]
  · rintro rest rfl
    exact noMinus List.mem_cons_self
  · rintro rest rfl
    exact noPlus List.mem_cons_self

theorem splitSign_of_isDigit {digit : Char} (isDigit : digit.isDigit = true) (rest : List Char) :
    splitSign (digit :: rest) = (false, digit :: rest) := by
  rw [splitSign]
  · exact fun _ same => ne_of_isDigit isDigit (by decide) (List.cons.inj same).1
  · exact fun _ same => ne_of_isDigit isDigit (by decide) (List.cons.inj same).1

theorem splitSign_toDigits (value : Nat) :
    splitSign (Nat.toDigits 10 value) = (false, Nat.toDigits 10 value) := by
  cases digits : Nat.toDigits 10 value with
  | nil => rfl
  | cons first rest =>
    exact splitSign_of_isDigit
      (isDigit_of_mem_toDigits (digits ▸ List.mem_cons_self : first ∈ Nat.toDigits 10 value)) rest

/-- The sign and the digits of a written integer. -/
theorem splitSign_integerText (value : Int) :
    splitSign (integerText value).toList = (decide (value < 0), Nat.toDigits 10 value.natAbs) := by
  rw [toList_integerText]
  by_cases negative : value < 0
  · rw [if_pos negative, decide_eq_true negative]
    rfl
  · rw [if_neg negative, decide_eq_false negative, List.nil_append, splitSign_toDigits]

theorem mem_of_mem_trim {blank : Char → Bool} {characters : List Char} {character : Char}
    (member : character ∈ trim blank characters) : character ∈ characters := by
  rw [trim, trimEnd, List.mem_reverse] at member
  have inside := (List.dropWhile_suffix blank).subset member
  rw [List.mem_reverse] at inside
  exact (List.dropWhile_suffix blank).subset inside

theorem hyphen_mem_of_splitSign {characters : List Char}
    (negative : (splitSign characters).1 = true) : '-' ∈ characters := by
  unfold splitSign at negative
  split at negative
  · exact List.mem_cons_self
  · cases negative
  · cases negative

/-- An integer without a minus sign is read as a natural number. -/
theorem nonneg_of_readInteger {text : String} {value : Int} (unsigned : '-' ∉ text.toList)
    (read : readInteger text = .ok value) : 0 ≤ value := by
  have positive : (splitSign (trim isSpace text.toList)).1 = false := by
    rw [Bool.eq_false_iff]
    exact fun negative => unsigned (mem_of_mem_trim (hyphen_mem_of_splitSign negative))
  rw [readInteger, readIntegerOf] at read
  dsimp only at read
  obtain ⟨magnitude, -, rfl⟩ := map_eq_ok.mp read
  rw [positive]
  exact Int.natCast_nonneg magnitude

/-- An integer within the digit limit reads back. -/
theorem readInteger_integerText {value : Int} (short : value.natAbs < 10 ^ digitLimit) :
    readInteger (integerText value) = .ok value := by
  have plain : trim isSpace (integerText value).toList = (integerText value).toList := by
    refine trim_eq_self fun character member => ?_
    rcases mem_integerText member with rfl | isDigit
    · decide
    · exact isSpace_eq_false_of_isDigit isDigit
  rw [readInteger, readIntegerOf, plain, splitSign_integerText]
  dsimp only
  have areDigits : ∀ digit ∈ Nat.toDigits 10 value.natAbs, digit.isDigit :=
    fun _ => isDigit_of_mem_toDigits
  rw [readMagnitude_of_mapM Nat.toDigits_ne_nil (mapM_decimalDigit? areDigits), ← digitsValue,
    digitsValue_toDigits, List.length_map,
    if_neg (not_lt.mpr (length_toDigits_le (by decide) short))]
  exact congrArg Except.ok (signed_natAbs value)

theorem isTooLong_eq_false {value : Int} (short : value.natAbs < 10 ^ digitLimit) :
    isTooLong value = false :=
  decide_eq_false (not_lt.mpr (length_toDigits_le (by decide) short))

theorem natAbs_signed (negative : Bool) (magnitude : Nat) :
    (signed negative magnitude).natAbs = magnitude := by
  cases negative
  · rfl
  · exact Int.natAbs_neg _

/-- No integer beyond the digit limit is ever read. -/
theorem natAbs_lt_of_readInteger {text : String} {value : Int}
    (read : readInteger text = .ok value) : value.natAbs < 10 ^ digitLimit := by
  rw [readInteger, readIntegerOf] at read
  dsimp only at read
  obtain ⟨magnitude, readMagnitude, rfl⟩ := map_eq_ok.mp read
  rw [natAbs_signed]
  exact readMagnitude_lt readMagnitude

end WorkQuery.Number
