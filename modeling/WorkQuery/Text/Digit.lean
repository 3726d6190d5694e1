/-
This file holds the decimal digits of Unicode 14. A decimal digit is a character with a place in
one of the runs of ten that stand for zero to nine, in any script; `decimalDigit?` gives its value.
A wider class, `isDigitLike`, adds the characters that show a digit without being usable in a
positional numeral, such as superscripts and circled digits.
-/

namespace WorkQuery.Text

/-! ### Decimal digits -/

/-- The zeros of the scripts that write numbers in base ten; the nine characters after each zero
are the digits one to nine of the same script. -/
def decimalZeros : List Nat :=
  [0x30, 0x660, 0x6F0, 0x7C0, 0x966, 0x9E6, 0xA66, 0xAE6, 0xB66, 0xBE6, 0xC66, 0xCE6, 0xD66, 0xDE6,
   0xE50, 0xED0, 0xF20, 0x1040, 0x1090, 0x17E0, 0x1810, 0x1946, 0x19D0, 0x1A80, 0x1A90, 0x1B50,
   0x1BB0, 0x1C40, 0x1C50, 0xA620, 0xA8D0, 0xA900, 0xA9D0, 0xA9F0, 0xAA50, 0xABF0, 0xFF10, 0x104A0,
   0x10D30, 0x11066, 0x110F0, 0x11136, 0x111D0, 0x112F0, 0x11450, 0x114D0, 0x11650, 0x116C0,
   0x11730, 0x118E0, 0x11950, 0x11C50, 0x11D50, 0x11DA0, 0x16A60, 0x16AC0, 0x16B50, 0x1D7CE,
   0x1D7D8, 0x1D7E2, 0x1D7EC, 0x1D7F6, 0x1E140, 0x1E2F0, 0x1E950, 0x1FBF0]

/-- The value of a decimal digit of any script. -/
def decimalDigit? (character : Char) : Option Nat :=
  (decimalZeros.find? fun start => start ≤ character.toNat && character.toNat ≤ start + 9).map
    fun start => character.toNat - start

/-- The value of one of the ten ASCII digits. -/
def asciiDigit? (character : Char) : Option Nat :=
  if character.isDigit then some (character.toNat - '0'.toNat) else none

/-- The value of a digit in base sixteen. -/
def hexDigit? (character : Char) : Option Nat :=
  let code := character.toNat
  if '0'.toNat ≤ code ∧ code ≤ '9'.toNat then some (code - '0'.toNat)
  else if 'a'.toNat ≤ code ∧ code ≤ 'f'.toNat then some (code - 'a'.toNat + 10)
  else if 'A'.toNat ≤ code ∧ code ≤ 'F'.toNat then some (code - 'A'.toNat + 10)
  else none

/-! ### Digits that do not count in a numeral -/

/-- The ranges of superscript, subscript, circled and similar digits. -/
def ornamentalDigits : List (Nat × Nat) :=
  [(0xB2, 0xB3), (0xB9, 0xB9), (0x1369, 0x1371), (0x19DA, 0x19DA), (0x2070, 0x2070),
   (0x2074, 0x2079), (0x2080, 0x2089), (0x2460, 0x2468), (0x2474, 0x247C), (0x2488, 0x2490),
   (0x24EA, 0x24EA), (0x24F5, 0x24FD), (0x24FF, 0x24FF), (0x2776, 0x277E), (0x2780, 0x2788),
   (0x278A, 0x2792), (0x10A40, 0x10A43), (0x10E60, 0x10E68), (0x11052, 0x1105A), (0x1F100, 0x1F10A)]

/-- Whether the character shows a digit: a decimal digit or an ornamental one. -/
def isDigitLike (character : Char) : Bool :=
  (decimalDigit? character).isSome ||
    ornamentalDigits.any fun range => range.1 ≤ character.toNat && character.toNat ≤ range.2

/-! ### Small facts -/

/-- The ASCII digits come first in the table of zeros. -/
theorem decimalDigit?_of_isDigit (character : Char) (digit : character.isDigit = true) :
    decimalDigit? character = some (character.toNat - '0'.toNat) := by
  have range : 0x30 ≤ character.toNat ∧ character.toNat ≤ 0x39 := by
    simpa [Char.isDigit, UInt32.le_iff_toNat_le] using digit
  simp [decimalDigit?, decimalZeros, range.1, range.2]

end WorkQuery.Text
