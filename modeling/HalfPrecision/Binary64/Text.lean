import HalfPrecision.Binary64.Decimal

/-!
This file defines the text of a binary64 number. It has the fewest digits that read back. The point is written
within or next to the digits when it stands at most 16 places right of the first digit or 3 places left of it, and
an exponent of at least two digits is written otherwise.
-/

namespace HalfPrecision.Binary64

/-- The digits of a positive decimal without zeros at the end, and the place of the point counted from their start. -/
def significantDigits (mantissa : Nat) (exponent : Int) : List Char × Int :=
  let digits := Nat.toDigits 10 mantissa
  ((digits.reverse.dropWhile (· == '0')).reverse, digits.length + exponent)

/-- The exponent after the letter `e`. -/
def exponentText (exponent : Int) : List Char :=
  'e' :: (if exponent < 0 then '-' else '+') :: padZeros 2 (Nat.toDigits 10 exponent.natAbs)

/-- Lays digits out around the point. Whole numbers end in `.0` if `pointed`. -/
def layOut (pointed : Bool) (digits : List Char) (point : Int) : List Char :=
  if -4 < point ∧ point ≤ 16 then
    if point ≤ 0 then '0' :: '.' :: List.replicate (-point).toNat '0' ++ digits
    else if digits.length ≤ point.toNat then
      digits ++ List.replicate (point.toNat - digits.length) '0' ++ (if pointed then ['.', '0'] else [])
    else digits.take point.toNat ++ '.' :: digits.drop point.toNat
  else
    digits.take 1 ++ (if digits.length ≤ 1 then [] else '.' :: digits.drop 1) ++ exponentText (point - 1)

/-- The text of a magnitude. -/
def magnitudeText (pointed : Bool) (number : Binary64) : List Char :=
  match number.decoded.category with
  | .nan => "nan".toList
  | .infinite => "inf".toList
  | .zero => if pointed then ['0', '.', '0'] else ['0']
  | .subnormal | .normal =>
    let value := number.decoded.magnitude
    let (mantissa, exponent) := shortestDecimal (ofMagnitude false value) value
    let (digits, point) := significantDigits mantissa exponent
    layOut pointed digits point

/-- The text of a number. NaN has no sign. -/
def characters (pointed : Bool) (number : Binary64) : List Char :=
  if number.negative && !number.isNaN then '-' :: magnitudeText pointed number else magnitudeText pointed number

def text (number : Binary64) : String := String.ofList (number.characters true)

end HalfPrecision.Binary64
