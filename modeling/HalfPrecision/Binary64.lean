import HalfPrecision.Format.Decoded
import HalfPrecision.Format.Nearest

/-! This file defines binary64 numbers as bit patterns, with exact values and correctly rounded operations. -/

namespace HalfPrecision

/-- A binary64 number. NaN patterns are kept apart, so equality of patterns is not equality of values. -/
structure Binary64 where
  bits : UInt64
deriving DecidableEq

namespace Binary64

def ofPattern (pattern : Nat) : Binary64 := ⟨UInt64.ofNat pattern⟩

def decoded (number : Binary64) : Decoded := Format.double.decode number.bits.toNat

def negative (number : Binary64) : Bool := number.decoded.negative

/-- The pattern without its sign bit. -/
def magnitudeBits (number : Binary64) : Nat := number.bits.toNat % Format.double.signBit

def isNaN (number : Binary64) : Bool := decide (Format.double.exponentMask < number.magnitudeBits)

def isInfinite (number : Binary64) : Bool := decide (number.magnitudeBits = Format.double.exponentMask)

/-- Whether two numbers have equal values. Zeros of both signs are equal, and a NaN equals nothing. -/
def hasValueOf (first second : Binary64) : Bool :=
  if first.bits = second.bits then !first.isNaN else first.magnitudeBits == 0 && second.magnitudeBits == 0

def nan : Binary64 := ofPattern Format.double.quietNaN

def infinity (negative : Bool) : Binary64 := ofPattern (Format.double.signed negative Format.double.exponentMask)

def zero (negative : Bool) : Binary64 := ofPattern (Format.double.signed negative 0)

/-- The exact value of a finite number. -/
def toRat? (number : Binary64) : Option Rat :=
  if number.isNaN || number.isInfinite then none else some number.decoded.value

/-- The number nearest to a magnitude, with a given sign. Magnitudes that are too large become infinity. -/
def ofMagnitude (negative : Bool) (magnitude : Rat) : Binary64 :=
  ofPattern (Format.double.signed negative (Format.double.nearest magnitude))

/-- The number nearest to a rational, if it is finite. Only values below zero get the negative sign. -/
def ofRat? (value : Rat) : Option Binary64 :=
  let nearest := ofMagnitude (decide (value < 0)) value.abs
  if nearest.isInfinite then none else some nearest

/-- The same number with the other sign. -/
def negate (number : Binary64) : Binary64 := ⟨number.bits ^^^ UInt64.ofNat Format.double.signBit⟩

/-- The binary32 pattern that a number is packed into. A NaN keeps its sign and the high bits of its fraction, and
becomes quiet. A finite number that would be rounded to infinity is not packed. -/
def packedSingle? (number : Binary64) : Option Nat :=
  let decoded := number.decoded
  match decoded.category with
  | .nan =>
    some (Format.single.signed decoded.negative
      (Format.single.quietNaN ||| decoded.fraction >>> (Format.double.fractionWidth - Format.single.fractionWidth)))
  | .infinite => some (Format.single.signed decoded.negative Format.single.exponentMask)
  | _ =>
    let nearest := Format.single.nearest decoded.magnitude
    if nearest = Format.single.exponentMask then none else some (Format.single.signed decoded.negative nearest)

/-- The binary32 pattern nearest to a number. The numbers that are not packed become infinity. -/
def toSingle (number : Binary64) : Nat :=
  match number.packedSingle? with
  | some pattern => pattern
  | none => Format.single.signed (decide (number.decoded.value < 0)) Format.single.exponentMask

/-- The quiet NaN with a sign and with the fraction of a binary32 pattern as its high bits. -/
def widenedNaN (negative : Bool) (fraction : Nat) : Binary64 :=
  ofPattern (Format.double.signed negative
    (Format.double.quietNaN ||| fraction <<< (Format.double.fractionWidth - Format.single.fractionWidth)))

/-- The number that the low 32 bits of a word denote in binary32. A NaN keeps its sign and its fraction, and becomes
quiet. -/
def ofSingle (word : Int) : Binary64 :=
  let decoded := Format.single.decode word
  match decoded.category with
  | .nan => widenedNaN decoded.negative decoded.fraction
  | .infinite => infinity decoded.negative
  | _ => ofMagnitude decoded.negative decoded.magnitude

/-- The correctly rounded sum. An exact zero is negative only if both terms are. -/
def add (first second : Binary64) : Binary64 :=
  match first.toRat?, second.toRat? with
  | some left, some right =>
    let sum := left + right
    if sum = 0 then zero (first.negative && second.negative)
    else ofMagnitude (decide (sum < 0)) sum.abs
  | _, _ =>
    if first.isNaN || second.isNaN then nan
    else if first.isInfinite && second.isInfinite && first.negative != second.negative then nan
    else if first.isInfinite then first else second

/-- The correctly rounded product. -/
def mul (first second : Binary64) : Binary64 :=
  let negative := first.negative != second.negative
  match first.toRat?, second.toRat? with
  | some left, some right => ofMagnitude negative (left * right).abs
  | some other, none => if second.isNaN || other = 0 then nan else infinity negative
  | none, some other => if first.isNaN || other = 0 then nan else infinity negative
  | none, none => if first.isNaN || second.isNaN then nan else infinity negative

end Binary64

end HalfPrecision
