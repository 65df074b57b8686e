import HalfPrecision.Format.Normalized
import HalfPrecision.Half.Constants

/-! This file defines rounding of a half to an integral half. -/

namespace HalfPrecision.Half

/-- The count of significand bits behind the point, which is not positive for all large values. -/
def fractionBits (decoded : Decoded) : Int := (bitLength decoded.significand : Int) - 1 - decoded.exponent

/-- Whether a word is rounded, as it has a significand with bits behind the point. -/
def isRounded (word : Int) : Bool :=
  let decoded := Format.half.decode word
  match decoded.category with
  | .nan | .infinite | .zero => false
  | .subnormal | .normal => decide (0 < fractionBits decoded)

/-- The integral half that a mode rounds a word to. NaN, infinities, zeros and integral values keep their pattern,
and a result of zero keeps the sign. -/
def toIntegral (mode : RoundingMode) (word : Int) : Nat :=
  let decoded := Format.half.decode word
  match decoded.category with
  | .nan | .infinite | .zero => decoded.pattern
  | .subnormal | .normal =>
    if fractionBits decoded ≤ 0 then decoded.pattern
    else
      let rounded := (shiftRightAndRound mode decoded.negative decoded.significand (fractionBits decoded)).1
      Format.half.normalized .nearestEven decoded.negative rounded (bitLength rounded.natAbs - 1)

def ceil (word : Int) : Nat := toIntegral .upward word

def floor (word : Int) : Nat := toIntegral .downward word

def trunc (word : Int) : Nat := toIntegral .towardZero word

def rint (word : Int) : Nat := toIntegral .nearestEven word

def roundHalfAway (word : Int) : Nat := toIntegral .nearestAway word

end HalfPrecision.Half
