import HalfPrecision.Binary64
import HalfPrecision.Numeral.Real

/-! This file defines the exchange between binary64 numbers and decimal digits: correct rounding in one direction,
and the fewest digits that read back in the other. -/

namespace HalfPrecision

/-- The count of decimal digits of a number. Zero has one. -/
def decimalLength (number : Nat) : Nat := (Nat.toDigits 10 number).length

/-- The largest power of ten that is not above a positive rational, as its exponent. -/
def floorLog10 (value : Rat) : Int :=
  let guess : Int := (decimalLength value.num.natAbs : Int) - decimalLength value.den
  if (10 : Rat) ^ guess ≤ value then guess else guess - 1

namespace Binary64

/-- The number nearest to a mantissa times a power of ten. Powers far outside of the range are not computed. -/
def ofDecimal (negative : Bool) (mantissa : Nat) (exponent : Int) : Binary64 :=
  if mantissa = 0 then zero negative
  else
    let point := decimalLength mantissa + exponent
    if 310 < point then infinity negative
    else if point < -330 then zero negative
    else ofMagnitude negative (mantissa * (10 : Rat) ^ exponent)

/-- The number that a numeral denotes. -/
def ofNumeral : Numeral.RealNumeral → Binary64
  | .nan => nan
  | .infinite negative => infinity negative
  | .decimal negative mantissa exponent => ofDecimal negative mantissa exponent

/-- Reads a numeral of a real number. -/
def ofText (text : String) : Except Numeral.Refusal Binary64 :=
  match Numeral.readReal? text.toList with
  | some numeral => .ok (ofNumeral numeral)
  | none => .error (.malformedReal text)

/-- Reads a numeral of a real number from ASCII bytes. -/
def ofBytes (content : List UInt8) : Except Numeral.Refusal Binary64 :=
  match if content.all (· < 0x80) then Numeral.readReal? (content.map fun byte => Char.ofNat byte.toNat) else none with
  | some numeral => .ok (ofNumeral numeral)
  | none => .error (.malformedBytes content)

/-- The two neighbours of a positive rational among the multiples of a power of ten, the nearer one first. The even
one is first if they are equally near. -/
def decimalNeighbours (value : Rat) (exponent : Int) : Nat × Nat :=
  let scaled := value * (10 : Rat) ^ (-exponent)
  let below := scaled.floor.toNat
  if roundHalfEven scaled = scaled.floor then (below, below + 1) else (below + 1, below)

/-- A decimal with `count` digits that reads back as a positive number, if there is one. -/
def decimalOfLength? (number : Binary64) (value : Rat) (count : Nat) : Option (Nat × Int) :=
  let exponent := floorLog10 value - count + 1
  let (nearer, farther) := decimalNeighbours value exponent
  if ofDecimal false nearer exponent = number then some (nearer, exponent)
  else if ofDecimal false farther exponent = number then some (farther, exponent)
  else none

/-- All digits of a rational whose denominator is a power of two. -/
def exactDecimal (value : Rat) : Nat × Int :=
  let places : Int := value.den.log2
  ((value * (10 : Rat) ^ places).num.natAbs, -places)

/-- The decimal with the fewest digits that reads back as a positive finite number, and the nearest one of these. -/
def shortestDecimal (number : Binary64) (value : Rat) : Nat × Int :=
  ((List.range 17).findSome? fun fewer => decimalOfLength? number value (fewer + 1)).getD (exactDecimal value)

end Binary64

end HalfPrecision
