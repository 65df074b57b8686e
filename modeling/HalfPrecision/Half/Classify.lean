import HalfPrecision.Format.Decoded

/-! This file defines the categories and fields of half precision words, read off intervals of magnitudes. -/

namespace HalfPrecision.Half

/-- The pattern in the low 16 bits of a word. -/
def pattern (word : Int) : Nat := lowBits Format.half.width word

/-- The pattern without its sign bit. -/
def magnitude (word : Int) : Nat := pattern word % Format.half.signBit

theorem pattern_lt (word : Int) : pattern word < 65536 :=
  lowBits_lt Format.half.width word

theorem magnitude_lt (word : Int) : magnitude word < 32768 :=
  Nat.mod_lt (pattern word) (by decide)

def isNegative (word : Int) : Bool := decide (Format.half.signBit ≤ pattern word)

def isNaN (word : Int) : Bool := decide (Format.half.exponentMask < magnitude word)

def isInfinite (word : Int) : Bool := decide (magnitude word = Format.half.exponentMask)

def isZero (word : Int) : Bool := decide (magnitude word = 0)

def isSubnormal (word : Int) : Bool :=
  decide (0 < magnitude word ∧ magnitude word < Format.half.significandOne)

def isNormal (word : Int) : Bool :=
  decide (Format.half.significandOne ≤ magnitude word ∧ magnitude word < Format.half.exponentMask)

def category (word : Int) : Category :=
  if isNaN word then .nan
  else if isInfinite word then .infinite
  else if isZero word then .zero
  else if isSubnormal word then .subnormal
  else .normal

/-- The sign as 1 or -1. -/
def sign (word : Int) : Int := if isNegative word then -1 else 1

/-- The exponent field without its bias, which is -15 for zeros and subnormals. -/
def exponent (word : Int) : Int :=
  (magnitude word / Format.half.significandOne : Nat) - (Format.half.bias : Int)

/-- The fraction field. -/
def fraction (word : Int) : Nat := pattern word % Format.half.significandOne

end HalfPrecision.Half
