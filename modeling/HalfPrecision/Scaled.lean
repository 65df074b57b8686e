import HalfPrecision.Binary64.Decimal

/-!
This file defines numbers with an exponent of ten that may be too large to multiply out, and their order. Two numbers
are told apart by their leading digits first, so that they are multiplied out only if they are of the same size.
-/

namespace HalfPrecision

/-- A mantissa times a power of ten. -/
structure Scaled where
  mantissa : Rat
  exponent : Int

namespace Scaled

def ofRat (value : Rat) : Scaled := ⟨value, 0⟩

/-- The place of the leading digit of a number that is not zero. -/
def leading (number : Scaled) : Int := floorLog10 number.mantissa.abs + number.exponent

/-- The order of two rationals. -/
def compareRat (first second : Rat) : Ordering :=
  if first < second then .lt else if second < first then .gt else .eq

/-- The order of the magnitudes of two numbers that are not zero. -/
def compareMagnitude (first second : Scaled) : Ordering :=
  (compare first.leading second.leading).then
    (compareRat (first.mantissa.abs * (10 : Rat) ^ (first.exponent - second.exponent)) second.mantissa.abs)

/-- The order of two numbers. -/
def order (first second : Scaled) : Ordering :=
  let sign := first.mantissa.num.sign
  if first.exponent = second.exponent then compareRat first.mantissa second.mantissa
  else
    (compare sign second.mantissa.num.sign).then
      (if sign = 0 then .eq
      else if sign < 0 then compareMagnitude second first
      else compareMagnitude first second)

end Scaled

end HalfPrecision
