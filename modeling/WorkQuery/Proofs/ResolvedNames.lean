/-
This file says which names of columns resolve. A name stands for the standard column that has it,
for the column of a custom field if it is the mark and a number, and for a plain property otherwise
(`Column.StandsFor`). But whether a number follows the mark is decided with a wider class of digits
than the number is read with, and whatever the count of the digits: a name that shows a superscript,
or a number that is too long, resolves to nothing (`Column.exists_ofName_iff`). All other names
resolve to what they stand for, and so do the names of their columns, which may be others
(`ColumnSet.ofNames_resolves_iff`).
-/

import WorkQuery.Proofs.LenientInteger
import WorkQuery.Proofs.StoredQuery

namespace WorkQuery

open Number Schema Text

/-! ### Characters that show digits -/

namespace Number

/-- No blank shows a digit, not even an ornamental one. -/
theorem isSpace_eq_false_of_isDigitLike {character : Char} (like : isDigitLike character = true) :
    isSpace character = false := by
  rw [Bool.eq_false_iff]
  intro blank
  have others : ∀ code ∈ [0x09, 0x0A, 0x0B, 0x0C, 0x0D, 0x20, 0x85, 0xA0, 0x1680, 0x2000, 0x2001,
      0x2002, 0x2003, 0x2004, 0x2005, 0x2006, 0x2007, 0x2008, 0x2009, 0x200A, 0x2028, 0x2029,
      0x202F, 0x205F, 0x3000], isDigitLike (Char.ofNat code) = false := by decide +kernel
  have other := others character.toNat (by
    simp only [isSpace, Bool.or_eq_true, Bool.and_eq_true, decide_eq_true_eq, beq_iff_eq] at blank
    simp only [List.mem_cons, List.not_mem_nil, or_false]
    omega)
  rw [Char.ofNat_toNat, like] at other
  cases other

theorem notMem_of_isDigitLike {digits : List Char}
    (like : ∀ digit ∈ digits, isDigitLike digit = true) {character : Char}
    (other : isDigitLike character = false) : character ∉ digits := by
  intro member
  rw [like character member] at other
  cases other

/-- What shows digits only is read as an integer exactly if the digits are decimal and not too
many. -/
theorem readIntegerOf_eq_ok_iff {digits : List Char} (nonempty : digits ≠ [])
    (like : ∀ digit ∈ digits, isDigitLike digit = true) {value : Int} :
    readIntegerOf digits = .ok value ↔
      ∃ values, digits.mapM decimalDigit? = some values ∧ values.length ≤ digitLimit ∧
        value = ofDigits values := by
  have plain : trim isSpace digits = digits :=
    trim_eq_self fun character member => isSpace_eq_false_of_isDigitLike (like character member)
  have unsigned : splitSign digits = (false, digits) :=
    splitSign_of_notMem (notMem_of_isDigitLike like (by decide))
      (notMem_of_isDigitLike like (by decide))
  rw [readIntegerOf, plain, unsigned]
  dsimp only
  rw [map_eq_ok]
  constructor
  · rintro ⟨magnitude, read, rfl⟩
    obtain ⟨values, decimal, -⟩ := (isMagnitude_of_readMagnitude read).digits
    have ungrouped : ungrouped digits = digits :=
      List.filter_eq_self.mpr fun digit member => bne_iff_ne.mpr <| by
        rintro rfl
        exact notMem_of_isDigitLike like (by decide) member
    rw [ungrouped] at decimal
    rw [readMagnitude_of_mapM nonempty decimal] at read
    split at read
    · cases read
    · rename_i short
      obtain rfl := Except.ok.inj read
      exact ⟨values, decimal, not_lt.mp short, rfl⟩
  · rintro ⟨values, decimal, short, rfl⟩
    rw [readMagnitude_of_mapM nonempty decimal, if_neg (not_lt.mpr short)]
    exact ⟨_, rfl, rfl⟩

end Number

/-! ### Names of custom fields -/

namespace Column

/-- Whether a name is the mark of custom fields and a number, in the decimal digits of any
script. -/
def NamesField (name : String) (id : Nat) : Prop :=
  ∃ digits values, name = customFieldMark ++ String.ofList digits ∧ digits ≠ [] ∧
    digits.mapM decimalDigit? = some values ∧ id = ofDigits values

theorem ofList_inj_of_marked {digits others : List Char}
    (same : customFieldMark ++ String.ofList digits = customFieldMark ++ String.ofList others) :
    digits = others := by
  have characters := congrArg String.toList same
  rw [String.toList_append, String.toList_append, String.toList_ofList, String.toList_ofList]
    at characters
  exact List.append_cancel_left characters

theorem NamesField.unique {name : String} {id other : Nat} (first : NamesField name id)
    (second : NamesField name other) : id = other := by
  obtain ⟨digits, values, rfl, -, decimal, rfl⟩ := first
  obtain ⟨digits', values', same, -, decimal', rfl⟩ := second
  obtain rfl := ofList_inj_of_marked same
  rw [Option.some.inj (decimal.symm.trans decimal')]

theorem NamesField.standard?_eq {name : String} {id : Nat} (numbered : NamesField name id) :
    standard? name = none := by
  obtain ⟨digits, values, rfl, -⟩ := numbered
  exact standard?_marked _

theorem looksCustom_iff {name : String} :
    looksCustom name = true ↔
      ∃ digits, name = customFieldMark ++ String.ofList digits ∧ digits ≠ [] ∧
        ∀ digit ∈ digits, isDigitLike digit = true := by
  rw [looksCustom, Bool.and_eq_true, Bool.and_eq_true, List.all_eq_true]
  constructor
  · rintro ⟨⟨marked, present⟩, like⟩
    refine ⟨name.toList.drop customFieldMark.length, ?_, ?_, like⟩
    · obtain ⟨rest, same⟩ := List.isPrefixOf_iff_prefix.mp marked
      rw [← String.toList_inj, String.toList_append, String.toList_ofList, ← same]
      exact congrArg (customFieldMark.toList ++ ·) List.drop_left.symm
    · intro empty
      rw [empty] at present
      cases present
  · rintro ⟨digits, rfl, nonempty, like⟩
    rw [drop_marked, String.toList_ofList]
    refine ⟨⟨isPrefixOf_marked _, ?_⟩, like⟩
    rw [List.isEmpty_eq_false_iff.mpr nonempty]
    rfl

theorem NamesField.looksCustom_eq {name : String} {id : Nat} (numbered : NamesField name id) :
    looksCustom name = true := by
  obtain ⟨digits, values, rfl, nonempty, decimal, -⟩ := numbered
  refine looksCustom_iff.mpr ⟨digits, rfl, nonempty, fun digit member => ?_⟩
  obtain ⟨value, found⟩ := decimalDigit?_of_mem decimal member
  rw [isDigitLike, found]
  rfl

/-! ### Resolved names -/

/-- The column that a name stands for: the standard column of that name, the column of the custom
field of that number, or else a plain property. -/
inductive StandsFor : String → Column → Prop
  | standard {column : Column} (listed : column ∈ catalogue) : StandsFor column.name column
  | customField {name : String} {id : Nat} (numbered : NamesField name id) :
      StandsFor name (ofCustomField id)
  | property {name : String} (unlisted : standard? name = none)
      (unnumbered : ∀ id, ¬NamesField name id) : StandsFor name (ofProperty name)

theorem standard?_name {column : Column} (listed : column ∈ catalogue) :
    standard? column.name = some column := by
  have found : ∀ column ∈ catalogue, standard? column.name = some column := by decide
  exact found column listed

theorem existsUnique_standsFor (name : String) : ∃! column, StandsFor name column := by
  cases found : standard? name with
  | some column =>
    obtain rfl := name_of_standard? found
    refine ⟨column, .standard (List.mem_of_find?_eq_some found), fun other stands => ?_⟩
    generalize same : column.name = name at stands found
    cases stands with
    | standard listed => exact Option.some.inj ((standard?_name listed).symm.trans found)
    | customField numbered => cases numbered.standard?_eq.symm.trans found
    | property unlisted => cases unlisted.symm.trans found
  | none =>
    by_cases numbered : ∃ id, NamesField name id
    · obtain ⟨id, numbered⟩ := numbered
      refine ⟨ofCustomField id, .customField numbered, fun other stands => ?_⟩
      cases stands with
      | standard listed => cases found.symm.trans (standard?_name listed)
      | customField numbered' => rw [numbered.unique numbered']
      | property unlisted unnumbered => exact absurd numbered (unnumbered id)
    · refine ⟨ofProperty name, .property found (not_exists.mp numbered), fun other stands => ?_⟩
      cases stands with
      | standard listed => cases found.symm.trans (standard?_name listed)
      | customField numbered' => exact absurd ⟨_, numbered'⟩ numbered
      | property => rfl

/-- Whether a name shows nothing but digits behind the mark of custom fields, and the digits are
not all decimal or are too many. -/
def IsMisread (name : String) : Prop :=
  ∃ digits, name = customFieldMark ++ String.ofList digits ∧ digits ≠ [] ∧
    (∀ digit ∈ digits, isDigitLike digit = true) ∧
      ∀ values, digits.mapM decimalDigit? = some values → digitLimit < values.length

/-- What becomes of a name: it is listed in the catalogue, or what shows digits behind the mark is
read as a number, or it is ordinary. -/
inductive Resolution : String → Except ConversionFault Column → Prop
  | listed {name : String} {column : Column} (found : standard? name = some column) :
      Resolution name (.ok column)
  | marked {digits : List Char} (nonempty : digits ≠ [])
      (like : ∀ digit ∈ digits, isDigitLike digit = true) :
      Resolution (customFieldMark ++ String.ofList digits)
        (((readIntegerOf digits).mapError (.text (String.ofList digits))).map ofCustomField)
  | ordinary {name : String} (unlisted : standard? name = none)
      (unmarked : looksCustom name = false) : Resolution name (.ok (ofProperty name))

theorem resolution_ofName (name : String) : Resolution name (ofName name) := by
  unfold ofName
  split
  · rename_i column found
    exact .listed found
  · rename_i unlisted
    split
    · rename_i custom
      obtain ⟨digits, rfl, nonempty, like⟩ := looksCustom_iff.mp custom
      dsimp only
      rw [drop_marked, String.ofList_toList, readInteger, String.toList_ofList]
      exact .marked nonempty like
    · rename_i ordinary
      exact .ordinary unlisted (Bool.eq_false_iff.mpr ordinary)

/-- A name resolves unless it is misread. -/
theorem exists_ofName_iff {name : String} :
    (∃ column, ofName name = .ok column) ↔ ¬IsMisread name := by
  have resolution := resolution_ofName name
  generalize ofName name = outcome at resolution ⊢
  cases resolution with
  | listed found =>
    refine iff_of_true ⟨_, rfl⟩ ?_
    rintro ⟨digits, rfl, -⟩
    cases (standard?_marked _).symm.trans found
  | ordinary unlisted unmarked =>
    refine iff_of_true ⟨_, rfl⟩ ?_
    rintro ⟨digits, same, nonempty, like, -⟩
    rw [looksCustom_iff.mpr ⟨digits, same, nonempty, like⟩] at unmarked
    cases unmarked
  | @marked digits nonempty like =>
    constructor
    · rintro ⟨column, resolved⟩ ⟨digits', same, -, -, long⟩
      obtain ⟨id, read, -⟩ := map_eq_ok.mp resolved
      obtain ⟨values, decimal, short, -⟩ :=
        (readIntegerOf_eq_ok_iff nonempty like).mp (mapError_eq_ok.mp read)
      obtain rfl := ofList_inj_of_marked same
      exact not_lt.mpr short (long values decimal)
    · intro readable
      have numeral : ∃ values, digits.mapM decimalDigit? = some values ∧
          values.length ≤ digitLimit := by
        by_contra none
        exact readable ⟨digits, rfl, nonempty, like, fun values decimal =>
          not_le.mp fun short => none ⟨values, decimal, short⟩⟩
      obtain ⟨values, decimal, short⟩ := numeral
      have read : readIntegerOf digits = .ok (ofDigits values) :=
        (readIntegerOf_eq_ok_iff nonempty like).mpr ⟨values, decimal, short, rfl⟩
      rw [read]
      exact ⟨_, rfl⟩

/-- A name that resolves does so to the column that it stands for. -/
theorem standsFor_of_ofName {name : String} {column : Column}
    (resolved : ofName name = .ok column) : StandsFor name column := by
  have resolution := resolution_ofName name
  rw [resolved] at resolution
  generalize outcomeOf : Except.ok column = outcome at resolution
  cases resolution with
  | listed found =>
    obtain rfl := Except.ok.inj outcomeOf
    obtain rfl := name_of_standard? found
    exact .standard (List.mem_of_find?_eq_some found)
  | ordinary unlisted unmarked =>
    obtain rfl := Except.ok.inj outcomeOf
    refine .property unlisted fun id numbered => ?_
    rw [numbered.looksCustom_eq] at unmarked
    cases unmarked
  | @marked digits nonempty like =>
    obtain ⟨id, read, rfl⟩ := map_eq_ok.mp outcomeOf.symm
    obtain ⟨values, decimal, -, rfl⟩ :=
      (readIntegerOf_eq_ok_iff nonempty like).mp (mapError_eq_ok.mp read)
    exact .customField ⟨digits, values, rfl, nonempty, decimal, rfl⟩

end Column

/-! ### Resolved columns -/

/-- Every name stands for one column. Names resolve exactly if none of them is misread; each then
resolves to the column that it stands for, and the names of the columns resolve to the same
columns. -/
theorem ColumnSet.ofNames_resolves_iff (names : List String) :
    (∀ name ∈ names, ∃! column, Column.StandsFor name column) ∧
      ((∃ set, ofNames names = .ok set) ↔ ∀ name ∈ names, ¬Column.IsMisread name) ∧
      ∀ set, ofNames names = .ok set →
        List.Forall₂ Column.StandsFor names set.columns ∧ ofNames set.names = .ok set := by
  refine ⟨fun name _ => Column.existsUnique_standsFor name, ?_, fun set found => ?_⟩
  · have resolved : (∃ set, ofNames names = .ok set) ↔
        ∃ columns, names.mapM Column.ofName = .ok columns := by
      constructor
      · rintro ⟨set, found⟩
        obtain ⟨columns, read, -⟩ := map_eq_ok.mp found
        exact ⟨columns, read⟩
      · rintro ⟨columns, read⟩
        exact ⟨⟨columns⟩, map_eq_ok.mpr ⟨columns, read, rfl⟩⟩
    rw [resolved, mapM_isOk_iff]
    exact forall₂_congr fun name _ => Column.exists_ofName_iff
  · refine ⟨?_, ofNames_names (forall_ofNames found)⟩
    obtain ⟨columns, read, rfl⟩ := map_eq_ok.mp found
    exact (forall₂_mapM read).imp fun _ _ => Column.standsFor_of_ofName

/-- A superscript behind the mark is no number, so that the name stands for a plain property; but it
shows a digit, and so the name does not resolve. -/
theorem ColumnSet.superscript_not_resolved :
    Column.StandsFor "cf_²" (.ofProperty "cf_²") ∧
      ofNames ["cf_²"] = .error (.text "²" .malformed) ∧
      ¬∀ names, ∃ set, ofNames names = .ok set ∧
        List.Forall₂ Column.StandsFor names set.columns ∧ ofNames set.names = .ok set := by
  have fails : ofNames ["cf_²"] = .error (.text "²" .malformed) := by decide +kernel
  refine ⟨.property (by decide) ?_, fails, fun all => ?_⟩
  · rintro id ⟨digits, values, same, -, decimal, -⟩
    obtain rfl : ['²'] = digits := Column.ofList_inj_of_marked same
    have none : ['²'].mapM decimalDigit? = none := by decide
    cases none.symm.trans decimal
  · obtain ⟨set, resolved, -⟩ := all ["cf_²"]
    cases fails.symm.trans resolved

end WorkQuery
