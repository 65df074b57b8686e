import HalfPrecision.Format

/-! This file defines correct rounding of exact rational magnitudes to a format, ties going to even patterns. -/

namespace HalfPrecision

/-- The integer nearest to a rational, and the even one of two that are equally near. -/
def roundHalfEven (value : Rat) : Int :=
  let below := value.floor
  let rest := value - below
  if rest < 1 / 2 then below
  else if 1 / 2 < rest then below + 1
  else if below % 2 = 0 then below else below + 1

/-- The largest power of two that is not above a positive rational, as its exponent. -/
def floorLog2 (value : Rat) : Int :=
  let guess : Int := value.num.natAbs.log2 - (value.den.log2 : Int)
  if (2 : Rat) ^ guess ≤ value then guess else guess - 1

namespace Format

/-- The magnitude nearest to a rational that is not negative, and the even pattern of two that are
equally near. Beyond the largest finite value it is the pattern of infinity. -/
def nearest (format : Format) (value : Rat) : Nat :=
  if value = 0 then 0
  else
    let least : Int := 1 - format.bias
    let exponent := max (floorLog2 value) least
    let places := roundHalfEven (value * (2 : Rat) ^ ((format.fractionWidth : Int) - exponent))
    min (places.toNat + (exponent - least).toNat * format.significandOne) format.exponentMask

end Format

end HalfPrecision
