import HalfPrecision.Format

/-! This file defines the parts that a bit pattern decodes into, and the magnitude they denote. -/

namespace HalfPrecision

/-- What a bit pattern stands for. -/
inductive Category where
  | zero
  | subnormal
  | normal
  | infinite
  | nan
deriving DecidableEq, Repr

/-- The name under which a category is printed. -/
def Category.name : Category → String
  | .zero => "zero"
  | .subnormal => "subnormal"
  | .normal => "normal"
  | .infinite => "inf"
  | .nan => "nan"

/-- A bit pattern taken apart. The leading bit of `significand` has the weight `2 ^ exponent`
when the value is finite and not zero. -/
structure Decoded where
  pattern : Nat
  negative : Bool
  category : Category
  exponentField : Nat
  fraction : Nat
  exponent : Int
  significand : Nat
deriving DecidableEq

namespace Format

/-- The category of a magnitude, told apart by its exponent field. -/
def categoryOf (format : Format) (magnitude : Nat) : Category :=
  if magnitude = 0 then .zero
  else if magnitude = format.exponentMask then .infinite
  else if format.exponentMask < magnitude then .nan
  else if magnitude / format.significandOne = 0 then .subnormal
  else .normal

/-- Takes the low bits of a word apart. -/
def decode (format : Format) (word : Int) : Decoded :=
  let pattern := lowBits format.width word
  let magnitude := pattern % format.signBit
  let category := format.categoryOf magnitude
  let exponentField := magnitude / format.significandOne
  let fraction := magnitude % format.significandOne
  let exponent := (exponentField : Int) - format.bias
  { pattern := pattern
    negative := decide (pattern / format.signBit = 1)
    category := category
    exponentField := exponentField
    fraction := fraction
    exponent :=
      if category = .subnormal then exponent - ((format.fractionWidth : Int) - bitLength fraction)
      else exponent
    significand := if category = .normal then format.significandOne + fraction else fraction }

end Format

namespace Decoded

/-- The weight of the lowest bit of the significand is two to this power. -/
def scale (decoded : Decoded) : Int :=
  decoded.exponent + 1 - bitLength decoded.significand

/-- The magnitude of a finite pattern. -/
def magnitude (decoded : Decoded) : Rat :=
  decoded.significand * (2 : Rat) ^ decoded.scale

/-- The value of a finite pattern. -/
def value (decoded : Decoded) : Rat :=
  if decoded.negative then -decoded.magnitude else decoded.magnitude

/-- The sign, significand, exponent and pattern in one line. -/
def summary (decoded : Decoded) : String :=
  (if decoded.negative then "- " else "+ ") ++ "s: " ++ String.ofList (Nat.toDigits 2 decoded.significand) ++
    " e: " ++ toString decoded.exponent ++ " raw: " ++ hexLiteral decoded.pattern

end Decoded

end HalfPrecision
