/-! This file defines the characters that may surround a numeral. -/

namespace HalfPrecision.Text

/-- The code points above ASCII that count as space. -/
def wideBlanks : List Nat :=
  [0x85, 0xa0, 0x1680, 0x2000, 0x2001, 0x2002, 0x2003, 0x2004, 0x2005, 0x2006, 0x2007, 0x2008, 0x2009, 0x200a, 0x2028,
    0x2029, 0x202f, 0x205f, 0x3000]

/-- Whether a character may surround a numeral: the space, the ASCII controls from tab to carriage return, and
the wide spaces. -/
def isBlank (character : Char) : Bool :=
  character == ' ' || (decide (9 ≤ character.toNat) && decide (character.toNat ≤ 13)) ||
    wideBlanks.contains character.toNat

/-- A text without the blanks at its two ends. -/
def trimBlanks (characters : List Char) : List Char :=
  ((characters.dropWhile isBlank).reverse.dropWhile isBlank).reverse

end HalfPrecision.Text
