import HalfPrecision.Format

/-! This file defines the distinguished patterns and exponents of the half precision format. -/

namespace HalfPrecision.Half

def size : Nat := Format.half.width

def maxExponent : Int := Format.half.bias

def minExponent : Int := 1 - Format.half.bias

def positiveZero : Nat := Format.half.signed false 0

def negativeZero : Nat := Format.half.signed true 0

def nan : Nat := Format.half.quietNaN

def positiveInfinity : Nat := Format.half.signed false Format.half.exponentMask

def negativeInfinity : Nat := Format.half.signed true Format.half.exponentMask

/-- The largest finite value, 65504. -/
def maxValue : Nat := Format.half.signed false Format.half.largestFinite

/-- The smallest positive value, `2 ^ -24`. -/
def minValue : Nat := 1

/-- The smallest positive normal value, `2 ^ -14`. -/
def minNormal : Nat := Format.half.significandOne

/-- The smallest finite value, -65504. -/
def lowestValue : Nat := Format.half.signed true Format.half.largestFinite

/-- The distance from one to the next larger value, `2 ^ -10`. -/
def epsilon : Nat := (Format.half.bias - Format.half.fractionWidth) * Format.half.significandOne

end HalfPrecision.Half
