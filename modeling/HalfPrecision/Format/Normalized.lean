import HalfPrecision.Format.Decoded
import HalfPrecision.Rounding

/-! This file defines how a significand of any length is rounded and packed into a format. -/

namespace HalfPrecision.Format

/-- The pattern of a value beyond the largest finite one. The modes that never round away from zero
on this side stay finite. -/
def overflowed (format : Format) (mode : RoundingMode) (negative : Bool) : Nat :=
  let saturates :=
    if negative then mode = .upward ∨ mode = .towardZero else mode = .downward ∨ mode = .towardZero
  format.signed negative (if saturates then format.largestFinite else format.exponentMask)

/-- The count of bits by which a significand is longer than those of normal values. -/
def excess (format : Format) (significand : Int) : Int :=
  bitLength significand.natAbs - (format.fractionWidth + 1 : Int)

/-- The count of bits that a significand loses. It gains bits if the count is negative. -/
def lostBits (format : Format) (significand exponent : Int) : Int :=
  if exponent ≤ -(format.bias : Int) then format.excess significand + (-exponent - format.bias + 1)
  else format.excess significand

/-- The significand at the place of the format's lowest bit, and the exponent of its leading place. -/
def aligned (format : Format) (mode : RoundingMode) (negative : Bool) (significand exponent : Int) : Int × Int :=
  let (rounded, carry) := shiftRightAndRound mode negative significand (format.lostBits significand exponent)
  if exponent ≤ -(format.bias : Int) then
    (rounded, if rounded / format.significandOne % 2 = 0 then -(format.bias : Int) else 1 - (format.bias : Int))
  else (rounded, if carry then exponent + 1 else exponent)

/-- Packs a significand whose leading bit has the weight `2 ^ exponent`. Values that are too small
become subnormal or a zero of their sign. -/
def normalized (format : Format) (mode : RoundingMode) (negative : Bool) (significand exponent : Int) : Nat :=
  if significand = 0 then format.signed negative 0
  else
    let (rounded, leading) := format.aligned mode negative significand exponent
    if (format.bias : Int) < leading then format.overflowed mode negative
    else
      format.signed negative
        ((leading + format.bias).toNat * format.significandOne + lowBits format.fractionWidth rounded)

end HalfPrecision.Format
