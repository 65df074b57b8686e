import HalfPrecision.Binary64.Decimal
import HalfPrecision.Half.Convert
import HalfPrecision.Text.Codes

/-! This file defines how a half is read from a text: hexadecimal bits, or a numeral of a real number. -/

namespace HalfPrecision.Half

/-- Whether a text, without any signs in front, starts with the mark of hexadecimal bits. -/
def marksBits (characters : List Char) : Bool :=
  match characters.dropWhile fun character => character == '+' || character == '-' with
  | '0' :: letter :: _ => letter == 'x' || letter == 'X'
  | _ => false

/-- The word that a text denotes. Hexadecimal bits are taken as they are, and a real number is rounded. -/
def ofText (text : String) : Except Numeral.Refusal Int :=
  if marksBits text.toList then Numeral.readInteger 16 text
  else (Binary64.ofText text).map fun number => (ofBinary64 number : Int)

/-- The refusal of code points with surrogates, which are in no numeral. -/
def refusalOf (codes : List Nat) : Numeral.Refusal :=
  if marksBits (codes.map Char.ofNat) then .brokenInteger 16 codes else .brokenReal codes

/-- The word that code points denote. -/
def ofCodes (codes : List Nat) : Except Numeral.Refusal Int :=
  if codes.any Text.isSurrogate then .error (refusalOf codes) else ofText (Text.ofCodes codes)

end HalfPrecision.Half
