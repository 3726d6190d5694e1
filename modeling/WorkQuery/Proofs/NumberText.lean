/-
This file proves that written numbers read back. The characters of a number are never blanks,
underscores or quotes, so the lenient reader takes them as they are (`readNumber?_of_allPlain`). The
positional and the scientific form of a decimal are both read as that decimal up to zeros at the end
of its digits (`readsAs_decimalText`), and the decimal is the shortest of its double.
-/

import WorkQuery.Proofs.ShortestDecimal
import WorkQuery.Number.Reading
import WorkQuery.Text.Symbol

namespace WorkQuery.Number

open Text

/-! ### Plain characters -/

/-- The brackets and commas of statements. -/
def isBracket (character : Char) : Bool :=
  character == '(' || character == ')' || character == ','

/-- A character of a number: neither a blank, an underscore, a quote, a bracket, a capital letter
nor the mark of halves, and in its ASCII form. -/
structure IsPlain (character : Char) : Prop where
  notBlank : isSpace character = false
  notUnderscore : character ≠ '_'
  notQuote : character ≠ '\''
  notMark : character ≠ mark
  notBracket : isBracket character = false
  notCapital : character.isUpper = false
  ascii : asciiForm character = character

theorem isPlain_of_isDigit {digit : Char} (isDigit : digit.isDigit = true) : IsPlain digit := by
  have range := toNat_of_isDigit isDigit
  refine ⟨isSpace_eq_false_of_isDigit isDigit, ne_of_isDigit isDigit (by decide),
    ne_of_isDigit isDigit (by decide), ne_of_isDigit isDigit (by decide), ?_, ?_, ?_⟩
  · simp only [isBracket, Bool.or_eq_false_iff, beq_eq_false_iff_ne]
    exact ⟨⟨ne_of_isDigit isDigit (by decide), ne_of_isDigit isDigit (by decide)⟩,
      ne_of_isDigit isDigit (by decide)⟩
  · have small : ¬ 'A'.val ≤ digit.val := by
      rw [UInt32.le_iff_toNat_le]
      exact not_le.mpr (lt_of_le_of_lt range.2 (by decide))
    exact decide_eq_false fun both => small both.1
  · rw [asciiForm, decimalDigit?_of_isDigit digit isDigit]
    dsimp only
    rw [Nat.add_sub_cancel' (by exact range.1), Char.ofNat_toNat]

/-- The other characters that numbers are written with. -/
def numberSigns : List Char := "-+.einfa".toList

theorem isPlain_of_mem_numberSigns : ∀ sign ∈ numberSigns, IsPlain sign := by
  have checked : (numberSigns.all fun sign => isSpace sign == false && sign != '_' &&
      sign != '\'' && sign != mark && isBracket sign == false && sign.isUpper == false &&
      asciiForm sign == sign) = true := by decide
  intro sign member
  have each := List.all_eq_true.mp checked sign member
  simp only [Bool.and_eq_true, beq_iff_eq, bne_iff_ne] at each
  obtain ⟨⟨⟨⟨⟨⟨notBlank, notUnderscore⟩, notQuote⟩, notMark⟩, notBracket⟩, notCapital⟩, ascii⟩ :=
    each
  exact ⟨notBlank, notUnderscore, notQuote, notMark, notBracket, notCapital, ascii⟩

/-- A text of plain characters only. -/
def AllPlain (text : String) : Prop :=
  ∀ character ∈ text.toList, IsPlain character

theorem allPlain_of_forall {text : String}
    (signs : ∀ character ∈ text.toList, character.isDigit = true ∨ character ∈ numberSigns) :
    AllPlain text :=
  fun character member => (signs character member).elim isPlain_of_isDigit
    (isPlain_of_mem_numberSigns character)

theorem allPlain_of_signs {text : String}
    (signs : (text.toList.all fun character =>
      character.isDigit || numberSigns.contains character) = true) : AllPlain text := by
  refine allPlain_of_forall fun character member => ?_
  have each := List.all_eq_true.mp signs character member
  rw [Bool.or_eq_true, List.contains_iff_mem] at each
  exact each

theorem allPlain_append {first second : String} (plain : AllPlain first)
    (plain' : AllPlain second) : AllPlain (first ++ second) := by
  intro character member
  rw [String.toList_append, List.mem_append] at member
  exact member.elim (plain character) (plain' character)

theorem allPlain_ofList {digits : List Char} (areDigits : ∀ digit ∈ digits, digit.isDigit) :
    AllPlain (String.ofList digits) := by
  intro character member
  rw [String.toList_ofList] at member
  exact isPlain_of_isDigit (areDigits character member)

theorem isDigit_of_mem_zero : ∀ digit ∈ ['0'], digit.isDigit :=
  List.forall_mem_singleton.mpr rfl

theorem withoutUnderscores?_eq_self (afterDigit : Bool) {characters : List Char}
    (plain : ∀ character ∈ characters, character ≠ '_') :
    withoutUnderscores? afterDigit characters = some characters := by
  induction characters generalizing afterDigit with
  | nil => rfl
  | cons first rest inductionHypothesis =>
    have notUnderscore : first ≠ '_' := plain first List.mem_cons_self
    have others := inductionHypothesis first.isDigit
      fun character member => plain character (List.mem_cons_of_mem _ member)
    rw [withoutUnderscores?, others]
    · rfl
    · exact fun _ _ same => absurd same notUnderscore
    · exact fun same => absurd same notUnderscore

/-- The lenient reader takes plain characters as they are. -/
theorem readNumber?_of_allPlain {text : String} (plain : AllPlain text) :
    readNumber? text = plainNumber? text.toList := by
  have sameCharacters : text.toList.map asciiForm = text.toList.map id :=
    List.map_congr_left fun character member => (plain character member).ascii
  rw [readNumber?, trim_eq_self fun character member => (plain character member).notBlank,
    sameCharacters, List.map_id, withoutUnderscores?_eq_self false
      fun character member => (plain character member).notUnderscore]
  rfl

/-! ### Reading numerals -/

/-- What may follow the digits of a numeral, and the power of ten that it stands for. -/
inductive Shift : List Char → Int → Prop
  | none : Shift [] 0
  | exponent {rest : List Char} {shift : Int} (read : exponentValue? rest = some shift) :
    Shift ('e' :: rest) shift

theorem takeWhile_isDigit {digits rest : List Char} (areDigits : ∀ digit ∈ digits, digit.isDigit)
    (stops : rest.takeWhile Char.isDigit = []) :
    (digits ++ rest).takeWhile Char.isDigit = digits := by
  rw [List.takeWhile_append_of_pos areDigits, stops, List.append_nil]

theorem dropWhile_isDigit {digits rest : List Char} (areDigits : ∀ digit ∈ digits, digit.isDigit)
    (stops : rest.dropWhile Char.isDigit = rest) :
    (digits ++ rest).dropWhile Char.isDigit = rest := by
  rw [List.dropWhile_append_of_pos areDigits, stops]

theorem Shift.takeWhile {rest : List Char} {shift : Int} (follows : Shift rest shift) :
    rest.takeWhile Char.isDigit = [] := by
  cases follows with
  | none => rfl
  | exponent => rfl

theorem Shift.dropWhile {rest : List Char} {shift : Int} (follows : Shift rest shift) :
    rest.dropWhile Char.isDigit = rest := by
  cases follows with
  | none => rfl
  | exponent => rfl

/-- A numeral with digits on both sides of its point. -/
theorem numeral?_point (whole fraction : List Char) {rest : List Char} {shift : Int}
    (nonempty : whole ≠ []) (areWhole : ∀ digit ∈ whole, digit.isDigit)
    (areFraction : ∀ digit ∈ fraction, digit.isDigit) (follows : Shift rest shift) :
    numeral? (whole ++ '.' :: (fraction ++ rest)) =
      some (digitsValue (whole ++ fraction), shift - fraction.length) := by
  have noDigits : whole.isEmpty = false := by simp [nonempty]
  simp only [numeral?, takeWhile_isDigit areWhole (rfl : ('.' :: _).takeWhile Char.isDigit = []),
    dropWhile_isDigit areWhole (rfl : ('.' :: _).dropWhile Char.isDigit = _),
    takeWhile_isDigit areFraction follows.takeWhile,
    dropWhile_isDigit areFraction follows.dropWhile, noDigits, Bool.false_and, Bool.false_eq_true,
    if_false]
  cases follows with
  | none => rfl
  | exponent read => simp [read]

/-- A numeral without a point. -/
theorem numeral?_whole {whole rest : List Char} {shift : Int} (nonempty : whole ≠ [])
    (areWhole : ∀ digit ∈ whole, digit.isDigit) (follows : Shift rest shift) :
    numeral? (whole ++ rest) = some (digitsValue whole, shift) := by
  have noDigits : whole.isEmpty = false := by simp [nonempty]
  simp only [numeral?, takeWhile_isDigit areWhole follows.takeWhile,
    dropWhile_isDigit areWhole follows.dropWhile]
  cases follows with
  | none => simp [noDigits]
  | exponent read => simp [noDigits, read]

/-! ### Digits of a decimal -/

theorem digitsValue_append_zeros (digits : List Char) (count : Nat) :
    digitsValue (digits ++ List.replicate count '0') = digitsValue digits * 10 ^ count := by
  rw [digitsValue_append, digitsValue_replicate_zero, List.length_replicate, Nat.add_zero]

theorem digitsValue_zeros_append (count : Nat) (digits : List Char) :
    digitsValue (List.replicate count '0' ++ digits) = digitsValue digits := by
  rw [digitsValue_append, digitsValue_replicate_zero, Nat.zero_mul, Nat.zero_add]

theorem isDigit_of_mem_zeros {count : Nat} {digit : Char}
    (member : digit ∈ List.replicate count '0') : digit.isDigit = true := by
  rw [List.eq_of_mem_replicate member]
  decide

/-- The digits of a positive number are its significant digits and zeros behind them. -/
theorem toDigits_eq_significantDigits {value : Nat} (positive : 0 < value) :
    ∃ count : Nat, Nat.toDigits 10 value =
      Binary64.significantDigits value ++ List.replicate count '0' := by
  have parts := List.takeWhile_append_dropWhile (p := (· == '0'))
    (l := (Nat.toDigits 10 value).reverse)
  have zeros : (Nat.toDigits 10 value).reverse.takeWhile (· == '0') =
      List.replicate ((Nat.toDigits 10 value).reverse.takeWhile (· == '0')).length '0' := by
    refine List.eq_replicate_iff.mpr ⟨rfl, fun digit member => ?_⟩
    have isZero := List.mem_takeWhile_imp member
    exact beq_iff_eq.mp isZero
  rw [zeros] at parts
  generalize ((Nat.toDigits 10 value).reverse.takeWhile (· == '0')).length = count at parts
  have digits := congrArg List.reverse parts
  rw [List.reverse_append, List.reverse_reverse, List.reverse_replicate] at digits
  refine ⟨count, ?_⟩
  unfold Binary64.significantDigits
  split
  · rename_i none
    rw [none, List.nil_append] at digits
    have zero := digitsValue_toDigits value
    rw [← digits, digitsValue_replicate_zero] at zero
    omega
  · exact digits.symm

theorem significantDigits_ne_nil (value : Nat) : Binary64.significantDigits value ≠ [] := by
  unfold Binary64.significantDigits
  split
  · exact List.cons_ne_nil _ _
  · assumption

theorem isDigit_of_mem_significantDigits {value : Nat} {digit : Char}
    (member : digit ∈ Binary64.significantDigits value) : digit.isDigit = true := by
  unfold Binary64.significantDigits at member
  split at member
  · rw [List.mem_singleton.mp member]
    decide
  · have kept := (List.dropWhile_sublist _).subset (List.mem_reverse.mp member)
    exact isDigit_of_mem_toDigits (List.mem_reverse.mp kept)

/-! ### Exponents -/

theorem toList_paddedText (width value : Nat) :
    (paddedText width value).toList =
      List.replicate (width - (Nat.toDigits 10 value).length) '0' ++ Nat.toDigits 10 value := by
  rw [paddedText, String.toList_ofList]

theorem isDigit_of_mem_paddedText {width value : Nat} {digit : Char}
    (member : digit ∈ (paddedText width value).toList) : digit.isDigit = true := by
  rw [toList_paddedText, List.mem_append] at member
  exact member.elim isDigit_of_mem_zeros isDigit_of_mem_toDigits

theorem digitsValue_paddedText (width value : Nat) :
    digitsValue (paddedText width value).toList = value := by
  rw [toList_paddedText, digitsValue_zeros_append, digitsValue_toDigits]

theorem paddedText_ne_nil (width value : Nat) : (paddedText width value).toList ≠ [] := by
  rw [toList_paddedText]
  exact List.append_ne_nil_of_right_ne_nil _ Nat.toDigits_ne_nil

theorem toList_exponentText (exponent : Int) :
    (Binary64.exponentText exponent).toList =
      (if exponent < 0 then '-' else '+') :: (paddedText 2 exponent.natAbs).toList := by
  rw [Binary64.exponentText, String.toList_append]
  split <;> rfl

/-- A written exponent reads back. -/
theorem exponentValue?_exponentText (exponent : Int) :
    exponentValue? (Binary64.exponentText exponent).toList = some exponent := by
  have split : splitSign (Binary64.exponentText exponent).toList =
      (decide (exponent < 0), (paddedText 2 exponent.natAbs).toList) := by
    rw [toList_exponentText]
    by_cases negative : exponent < 0
    · rw [if_pos negative, decide_eq_true negative]
      rfl
    · rw [if_neg negative, decide_eq_false negative]
      rfl
  have nonempty : (paddedText 2 exponent.natAbs).toList.isEmpty = false :=
    List.isEmpty_eq_false_iff.mpr (paddedText_ne_nil 2 _)
  have digits : (paddedText 2 exponent.natAbs).toList.all Char.isDigit = true :=
    List.all_eq_true.mpr fun _ => isDigit_of_mem_paddedText
  simp only [exponentValue?, split, nonempty, digits, digitsValue_paddedText, signed_natAbs]
  rfl

/-! ### Decimals -/

/-- The characters are read as a decimal of this value, whatever its sign. -/
def ReadsAs (characters : List Char) (digits : Nat) (exponent : Int) : Prop :=
  ∃ value shift, numeral? characters = some (value, shift) ∧
    ∀ negative, Binary64.ofDecimal negative value shift =
      Binary64.ofDecimal negative digits exponent

/-- Zeros at the end of what is read make no difference. -/
theorem readsAs_of_zeros {characters : List Char} {digits value : Nat} {exponent shift : Int}
    (count : Nat) (positive : 0 < digits) (found : numeral? characters = some (value, shift))
    (zeros : value = digits * 10 ^ count) (same : shift + count = exponent) :
    ReadsAs characters digits exponent := by
  refine ⟨value, shift, found, fun negative => ?_⟩
  rw [zeros, Binary64.ofDecimal_mul_pow negative positive, same]

section Forms

variable {digits : List Char} (areDigits : ∀ digit ∈ digits, digit.isDigit)
  (positive : 0 < digitsValue digits)
include areDigits positive

/-- A decimal below one, written without exponent. -/
theorem readsAs_fraction (count : Nat) :
    ReadsAs ('0' :: '.' :: (List.replicate count '0' ++ digits)) (digitsValue digits)
      (-count - digits.length) := by
  have areFraction : ∀ digit ∈ List.replicate count '0' ++ digits, digit.isDigit := by
    intro digit member
    exact (List.mem_append.mp member).elim isDigit_of_mem_zeros (areDigits digit)
  have found := numeral?_point ['0'] _ (List.cons_ne_nil _ _) isDigit_of_mem_zero areFraction .none
  rw [List.append_nil] at found
  refine readsAs_of_zeros 0 positive found ?_ ?_
  · rw [Nat.pow_zero, Nat.mul_one, ← digitsValue_zeros_append 1 digits,
      ← digitsValue_zeros_append count (List.replicate 1 '0' ++ digits)]
    simp only [← List.append_assoc, List.replicate_append_replicate, Nat.add_comm count]
    rw [← List.replicate_append_replicate]
    rfl
  · rw [List.length_append, List.length_replicate]
    push_cast
    ring

/-- A whole number, written without exponent. -/
theorem readsAs_whole (nonempty : digits ≠ []) (count : Nat) :
    ReadsAs (digits ++ List.replicate count '0' ++ ['.', '0']) (digitsValue digits) count := by
  have areWhole : ∀ digit ∈ digits ++ List.replicate count '0', digit.isDigit := by
    intro digit member
    exact (List.mem_append.mp member).elim (areDigits digit) isDigit_of_mem_zeros
  have found := numeral?_point (digits ++ List.replicate count '0') ['0']
    (List.append_ne_nil_of_left_ne_nil nonempty _) areWhole isDigit_of_mem_zero .none
  refine readsAs_of_zeros (count + 1) positive found ?_ ?_
  · rw [← digitsValue_append_zeros, List.replicate_succ', List.append_assoc]
  · rw [List.length_singleton]
    push_cast
    ring

/-- A decimal with its point among its digits. -/
theorem readsAs_mixed {point : Nat} (inside : 0 < point) (before : point ≤ digits.length) :
    ReadsAs (digits.take point ++ '.' :: digits.drop point) (digitsValue digits)
      (point - digits.length) := by
  have nonempty : digits.take point ≠ [] := by
    refine List.length_pos_iff.mp ?_
    rw [List.length_take]
    omega
  have found := numeral?_point (digits.take point) (digits.drop point) nonempty
    (fun digit member => areDigits digit (List.mem_of_mem_take member))
    (fun digit member => areDigits digit (List.mem_of_mem_drop member)) .none
  rw [List.append_nil] at found
  refine readsAs_of_zeros 0 positive found ?_ ?_
  · rw [List.take_append_drop, Nat.pow_zero, Nat.mul_one]
  · rw [List.length_drop]
    push_cast [Nat.cast_sub before]
    ring

end Forms

/-- A decimal in scientific notation, with all digits but the first behind the point. -/
theorem readsAs_scientific {first : Char} {rest : List Char}
    (areDigits : ∀ digit ∈ first :: rest, digit.isDigit)
    (positive : 0 < digitsValue (first :: rest)) (order : Int) :
    ReadsAs (first :: '.' :: (rest ++ 'e' :: (Binary64.exponentText order).toList))
      (digitsValue (first :: rest)) (order - rest.length) := by
  have found := numeral?_point [first] rest (List.cons_ne_nil _ _)
    (fun digit member => areDigits digit (List.mem_singleton.mp member ▸ List.mem_cons_self))
    (fun digit member => areDigits digit (List.mem_cons_of_mem _ member))
    (.exponent (exponentValue?_exponentText order))
  refine readsAs_of_zeros 0 positive found ?_ ?_
  · rw [Nat.pow_zero, Nat.mul_one]
    rfl
  · rw [Nat.cast_zero, add_zero]

/-- A single digit in scientific notation, with a zero behind the point or without a point. -/
theorem readsAs_digit {digit : Char} (isDigit : digit.isDigit) (positive : 0 < digitsValue [digit])
    (keepPoint : Bool) (order : Int) :
    ReadsAs (digit :: ((if keepPoint then ['.', '0'] else []) ++
      'e' :: (Binary64.exponentText order).toList)) (digitsValue [digit]) order := by
  have areDigits : ∀ other ∈ [digit], other.isDigit :=
    fun other member => List.mem_singleton.mp member ▸ isDigit
  have follows := Shift.exponent (exponentValue?_exponentText order)
  cases keepPoint
  · refine readsAs_of_zeros 0 positive
      (numeral?_whole (List.cons_ne_nil _ _) areDigits follows) ?_ ?_
    · rw [Nat.pow_zero, Nat.mul_one]
      rfl
    · rw [Nat.cast_zero, add_zero]
  · refine readsAs_of_zeros 1 positive (numeral?_point [digit] ['0'] (List.cons_ne_nil _ _)
      areDigits isDigit_of_mem_zero follows) ?_ ?_
    · rw [← digitsValue_append_zeros]
      rfl
    · rw [List.length_singleton]
      ring

/-- What reads as a decimal reads as the same decimal with zeros moved from its exponent. -/
theorem ReadsAs.mul_pow {characters : List Char} {digits count : Nat} {exponent : Int}
    (positive : 0 < digits) (reads : ReadsAs characters digits (exponent + count)) :
    ReadsAs characters (digits * 10 ^ count) exponent := by
  obtain ⟨value, shift, found, same⟩ := reads
  refine ⟨value, shift, found, fun negative => ?_⟩
  rw [same, Binary64.ofDecimal_mul_pow negative positive]

/-! ### Notations -/

/-- A number with its point in its place, among the digits or beyond them. -/
def positionalDigits (digits : List Char) (point : Int) : String :=
  if point ≤ 0 then "0." ++ String.ofList (List.replicate (-point).toNat '0' ++ digits)
  else if digits.length ≤ point.toNat then
    String.ofList (digits ++ List.replicate (point.toNat - digits.length) '0') ++ ".0"
  else String.ofList (digits.take point.toNat) ++ "." ++ String.ofList (digits.drop point.toNat)

/-- A number with its point behind the first digit, and the order of that digit. -/
def scientificDigits (keepPoint : Bool) (digits : List Char) (order : Int) : String :=
  let fraction := match digits.drop 1 with
    | [] => if keepPoint then ".0" else ""
    | rest => "." ++ String.ofList rest
  String.ofList (digits.take 1) ++ fraction ++ "e" ++ Binary64.exponentText order

/-- The place of the point decides the notation, counted from the first digit. -/
theorem decimalText_eq (scientificFrom : Int) (keepPoint : Bool) (value : Nat) (exponent : Int) :
    Binary64.decimalText scientificFrom keepPoint ⟨value, exponent⟩ =
      let point : Int := (Nat.toDigits 10 value).length + exponent
      if -4 ≤ point - 1 ∧ point - 1 < scientificFrom then
        positionalDigits (Binary64.significantDigits value) point
      else scientificDigits keepPoint (Binary64.significantDigits value) (point - 1) := rfl

section Notations

variable {digits : List Char} (areDigits : ∀ digit ∈ digits, digit.isDigit)
include areDigits

theorem readsAs_positionalDigits (positive : 0 < digitsValue digits) (nonempty : digits ≠ [])
    (point : Int) :
    ReadsAs (positionalDigits digits point).toList (digitsValue digits)
      (point - digits.length) := by
  unfold positionalDigits
  split
  · have reads := readsAs_fraction areDigits positive (-point).toNat
    have same : -((-point).toNat : Int) = point := by omega
    rw [same] at reads
    simp only [String.toList_append, String.toList_ofList, String.reduceToList]
    exact reads
  · obtain ⟨place, rfl⟩ := Int.eq_ofNat_of_zero_le (show 0 ≤ point by omega)
    rw [Int.toNat_natCast]
    split
    · rename_i covered
      have reads := readsAs_whole areDigits positive nonempty (place - digits.length)
      rw [Nat.cast_sub covered] at reads
      simp only [String.toList_append, String.toList_ofList, String.reduceToList]
      exact reads
    · have reads := readsAs_mixed areDigits positive (show 0 < place by omega) (by omega)
      simp only [String.toList_append, String.toList_ofList, String.reduceToList,
        List.append_assoc]
      exact reads

theorem readsAs_scientificDigits (positive : 0 < digitsValue digits) (nonempty : digits ≠ [])
    (keepPoint : Bool) (order : Int) :
    ReadsAs (scientificDigits keepPoint digits order).toList (digitsValue digits)
      (order + 1 - digits.length) := by
  obtain ⟨first, rest, rfl⟩ := List.exists_cons_of_ne_nil nonempty
  cases rest with
  | nil =>
    have reads := readsAs_digit (areDigits first List.mem_cons_self) positive keepPoint order
    rw [List.length_singleton, Nat.cast_one, add_sub_cancel_right]
    cases keepPoint
    · simp only [scientificDigits, List.take_succ_cons, List.take_zero, List.drop_succ_cons,
        List.drop_nil, Bool.false_eq_true, if_false, String.toList_append, String.toList_ofList,
        String.reduceToList, List.append_assoc]
      exact reads
    · simp only [scientificDigits, List.take_succ_cons, List.take_zero, List.drop_succ_cons,
        List.drop_nil, if_true, String.toList_append, String.toList_ofList, String.reduceToList,
        List.append_assoc]
      exact reads
  | cons second others =>
    have reads := readsAs_scientific areDigits positive order
    have same : order - ((second :: others).length : Int) =
        order + 1 - (first :: second :: others).length := by
      simp only [List.length_cons]
      push_cast
      ring
    rw [same] at reads
    simp only [scientificDigits, List.take_succ_cons, List.take_zero, List.drop_succ_cons,
      List.drop_zero, String.toList_append, String.toList_ofList, String.reduceToList,
      List.append_assoc]
    exact reads

end Notations

/-- A written decimal reads back, in whichever notation it is written. -/
theorem readsAs_decimalText {value : Nat} (positive : 0 < value) (exponent scientificFrom : Int)
    (keepPoint : Bool) :
    ReadsAs (Binary64.decimalText scientificFrom keepPoint ⟨value, exponent⟩).toList value
      exponent := by
  obtain ⟨count, all⟩ := toDigits_eq_significantDigits positive
  have areDigits : ∀ digit ∈ Binary64.significantDigits value, digit.isDigit :=
    fun _ => isDigit_of_mem_significantDigits
  have nonempty := significantDigits_ne_nil value
  have total := digitsValue_toDigits value
  rw [all, digitsValue_append_zeros] at total
  rw [decimalText_eq, all]
  generalize Binary64.significantDigits value = digits at *
  have positive' : 0 < digitsValue digits := by
    refine Nat.pos_of_ne_zero fun zero => ?_
    rw [zero, Nat.zero_mul] at total
    omega
  rw [← total]
  refine ReadsAs.mul_pow positive' ?_
  rw [List.length_append, List.length_replicate]
  dsimp only
  generalize place : ((digits.length + count : Nat) : Int) + exponent = point
  have exponent' : exponent + count = point - digits.length := by
    rw [← place]
    push_cast
    ring
  rw [exponent']
  split
  · exact readsAs_positionalDigits areDigits positive' nonempty point
  · have reads := readsAs_scientificDigits areDigits positive' nonempty keepPoint (point - 1)
    rw [sub_add_cancel] at reads
    exact reads

/-! ### Numbers -/

/-- A numeral has no sign. -/
theorem splitSign_of_numeral? {characters : List Char} {result : Nat × Int}
    (found : numeral? characters = some result) : splitSign characters = (false, characters) := by
  unfold splitSign
  split
  · contradiction
  · contradiction
  · rfl

theorem plainNumber?_of_readsAs {characters : List Char} {digits : Nat} {exponent : Int}
    (reads : ReadsAs characters digits exponent) :
    plainNumber? characters = some (.ofDecimal false digits exponent) ∧
      plainNumber? ('-' :: characters) = some (.ofDecimal true digits exponent) := by
  obtain ⟨value, shift, found, same⟩ := reads
  constructor
  · rw [plainNumber?, splitSign_of_numeral? found]
    dsimp only
    rw [found]
    exact congrArg some (same false)
  · rw [plainNumber?, splitSign]
    dsimp only
    rw [found]
    exact congrArg some (same true)

namespace Binary64

/-- The sign has no part in reading a decimal. -/
theorem ofDecimal_eq_finite_iff {negative : Bool} (other : Bool) {digits significand : Nat}
    {shift exponent : Int} :
    ofDecimal negative digits shift = .finite negative significand exponent ↔
      ofDecimal other digits shift = .finite other significand exponent := by
  rcases Nat.eq_zero_or_pos digits with rfl | positive
  · simp [ofDecimal, zero]
  · rw [ofDecimal_of_pos negative positive, ofDecimal_of_pos other positive]
    split
    · simp
    · split
      · simp [zero]
      · split <;> exact ofRatio_eq_finite_iff other

/-- The text of a finite number reads back as that number. -/
theorem plainNumber?_finiteText (negative : Bool) {significand : Nat} {exponent : Int}
    (normal : IsNormal (.finite negative significand exponent)) :
    plainNumber? (text (.finite negative significand exponent)).toList =
      some (.finite negative significand exponent) := by
  have magnitude : ∃ digits shift,
      ReadsAs (if significand = 0 then "0.0"
        else decimalText 16 false (shortest significand exponent)).toList digits shift ∧
      ∀ sign, ofDecimal sign digits shift = .finite sign significand exponent := by
    rcases Nat.eq_zero_or_pos significand with rfl | positive
    · obtain rfl : exponent = leastExponent :=
        normal.2.2.2.resolve_left (by norm_num)
      refine ⟨0, 0, ⟨0, -1, by rw [if_pos rfl]; decide, fun sign => ?_⟩, fun sign => ?_⟩
      · rw [ofDecimal, ofDecimal, if_pos rfl, if_pos rfl]
      · rw [ofDecimal, if_pos rfl, zero]
    · have same := ofDecimal_shortest positive normal
      refine ⟨_, _, ?_, fun sign => (ofDecimal_eq_finite_iff sign).mp same⟩
      rw [if_neg (Nat.pos_iff_ne_zero.mp positive)]
      exact readsAs_decimalText (shortest_pos positive normal) _ 16 false
  obtain ⟨digits, shift, reads, same⟩ := magnitude
  obtain ⟨positive, minus⟩ := plainNumber?_of_readsAs reads
  unfold text
  cases negative
  · exact positive.trans (congrArg some (same false))
  · simp only [if_true, String.toList_append, String.reduceToList]
    exact minus.trans (congrArg some (same true))

theorem plainNumber?_text {number : Binary64} (normal : IsNormal number) :
    plainNumber? number.text.toList = some number := by
  cases number with
  | notANumber => decide
  | infinite negative => cases negative <;> decide
  | finite negative significand exponent => exact plainNumber?_finiteText negative normal

/-! ### Characters of a number -/

theorem allPlain_exponentText (exponent : Int) : AllPlain (exponentText exponent) := by
  intro character member
  rw [toList_exponentText] at member
  rcases List.mem_cons.mp member with rfl | digit
  · split
    · exact isPlain_of_mem_numberSigns '-' (by decide)
    · exact isPlain_of_mem_numberSigns '+' (by decide)
  · exact isPlain_of_isDigit (isDigit_of_mem_paddedText digit)

theorem allPlain_positionalDigits {digits : List Char} (areDigits : ∀ digit ∈ digits, digit.isDigit)
    (point : Int) : AllPlain (positionalDigits digits point) := by
  unfold positionalDigits
  split
  · refine allPlain_append (allPlain_of_signs (by decide)) (allPlain_ofList fun digit member => ?_)
    exact (List.mem_append.mp member).elim isDigit_of_mem_zeros (areDigits digit)
  · split
    · refine allPlain_append (allPlain_ofList fun digit member => ?_)
        (allPlain_of_signs (by decide))
      exact (List.mem_append.mp member).elim (areDigits digit) isDigit_of_mem_zeros
    · refine allPlain_append (allPlain_append (allPlain_ofList fun digit member => ?_)
        (allPlain_of_signs (by decide))) (allPlain_ofList fun digit member => ?_)
      · exact areDigits digit (List.mem_of_mem_take member)
      · exact areDigits digit (List.mem_of_mem_drop member)

theorem allPlain_scientificDigits {digits : List Char} (areDigits : ∀ digit ∈ digits, digit.isDigit)
    (keepPoint : Bool) (order : Int) : AllPlain (scientificDigits keepPoint digits order) := by
  refine allPlain_append (allPlain_append (allPlain_append (allPlain_ofList fun digit member => ?_)
    ?_) (allPlain_of_signs (by decide))) (allPlain_exponentText order)
  · exact areDigits digit (List.mem_of_mem_take member)
  · split
    · split
      · exact allPlain_of_signs (by decide)
      · exact allPlain_of_signs (by decide)
    · refine allPlain_append (allPlain_of_signs (by decide))
        (allPlain_ofList fun digit member => ?_)
      exact areDigits digit (List.mem_of_mem_drop member)

theorem allPlain_decimalText (scientificFrom : Int) (keepPoint : Bool) (decimal : Decimal) :
    AllPlain (decimalText scientificFrom keepPoint decimal) := by
  have areDigits : ∀ digit ∈ significantDigits decimal.digits, digit.isDigit :=
    fun _ => isDigit_of_mem_significantDigits
  rw [decimalText_eq]
  dsimp only
  split
  · exact allPlain_positionalDigits areDigits _
  · exact allPlain_scientificDigits areDigits keepPoint _

theorem allPlain_text (number : Binary64) : AllPlain number.text := by
  cases number with
  | notANumber => exact allPlain_of_signs (by decide)
  | infinite negative => cases negative <;> exact allPlain_of_signs (by decide)
  | finite negative significand exponent =>
    have magnitude : AllPlain (if significand = 0 then "0.0"
        else decimalText 16 false (shortest significand exponent)) := by
      split
      · exact allPlain_of_signs (by decide)
      · exact allPlain_decimalText 16 false _
    cases negative
    · exact magnitude
    · exact allPlain_append (allPlain_of_signs (by decide)) magnitude

/-- The text of a number reads back as that number. -/
theorem readNumber?_text {number : Binary64} (normal : IsNormal number) :
    readNumber? number.text = some number := by
  rw [readNumber?_of_allPlain (allPlain_text number), plainNumber?_text normal]

end Binary64

end WorkQuery.Number
