import HalfPrecision.Format.Decoded

/-!
This file defines the hexadecimal text of a half: a sign, the leading digit, the fraction field as a hexadecimal
integer and the exponent. A run of two or more zeros at the end of the fraction digits is dropped.
-/

namespace HalfPrecision.Half

/-- The digits without the zeros at their end, if these are at least two. -/
def dropZeroRun (digits : List Char) : List Char :=
  let kept := (digits.reverse.dropWhile (· == '0')).reverse
  if kept.length + 2 ≤ digits.length then kept else digits

/-- The text of a word without its sign, as characters. -/
def hexMagnitude (decoded : Decoded) : List Char :=
  let digits := dropZeroRun (hexDigits decoded.fraction)
  match decoded.category with
  | .nan => "NaN".toList
  | .infinite => "Infinity".toList
  | .zero => "0x0.0p0".toList
  | .subnormal => "0x0.".toList ++ digits ++ 'p' :: (toString (1 - (Format.half.bias : Int))).toList
  | .normal =>
    "0x1.".toList ++ digits ++ 'p' :: (toString ((decoded.exponentField : Int) - Format.half.bias)).toList

/-- The hexadecimal text of a word. NaN has no sign. -/
def hexText (word : Int) : String :=
  let decoded := Format.half.decode word
  let text := hexMagnitude decoded
  String.ofList (if decoded.negative ∧ decoded.category ≠ .nan then '-' :: text else text)

end HalfPrecision.Half
