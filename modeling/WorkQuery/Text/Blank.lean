/-
This file holds the two classes of blank characters that readers trim, and the trimming itself.
`isSpace` is the property of Unicode, and what may stand around a number; `isSeparator` adds the
four ASCII information separators, which count as blanks around a keyword too.
-/

namespace WorkQuery.Text

/-! ### Blanks -/

/-- The blanks of Unicode: the horizontal and vertical white space of ASCII, the next-line control,
the no-break space and the typographic spaces. -/
def isSpace (character : Char) : Bool :=
  let code := character.toNat
  (0x09 ≤ code && code ≤ 0x0D) || code == 0x20 || code == 0x85 || code == 0xA0 ||
    code == 0x1680 || (0x2000 ≤ code && code ≤ 0x200A) || code == 0x2028 || code == 0x2029 ||
    code == 0x202F || code == 0x205F || code == 0x3000

/-- A blank of Unicode or one of the four information separators `1C` to `1F`. -/
def isSeparator (character : Char) : Bool :=
  isSpace character || (0x1C ≤ character.toNat && character.toNat ≤ 0x1F)

/-! ### Trimming -/

/-- The characters left after those of a class are dropped at the end. -/
def trimEnd (blank : Char → Bool) (characters : List Char) : List Char :=
  (characters.reverse.dropWhile blank).reverse

/-- The characters left after those of a class are dropped at both ends. -/
def trim (blank : Char → Bool) (characters : List Char) : List Char :=
  trimEnd blank (characters.dropWhile blank)

/-! ### Letter case -/

/-- The text with its ASCII capitals made small. The keywords that are looked up this way hold
letters of ASCII only, and no other capital has a small form within them. -/
def lowered (text : String) : String :=
  String.ofList (text.toList.map Char.toLower)

/-- A keyword as it is compared: trimmed of separators and in small letters. -/
def keyword (text : String) : String :=
  String.ofList ((trim isSeparator text.toList).map Char.toLower)

/-! ### Small facts -/

/-- Every blank of ASCII is a blank here. -/
theorem isSpace_of_isWhitespace (character : Char) (blank : character.isWhitespace = true) :
    isSpace character = true := by
  simp only [Char.isWhitespace, Bool.or_eq_true, decide_eq_true_eq] at blank
  rcases blank with ((rfl | rfl) | rfl) | rfl <;> decide

end WorkQuery.Text
