import HalfPrecision.Fault
import HalfPrecision.Rounding
import HalfPrecision.Value.Equality

/-! This file defines how operations read values as words, shift counts, rounding modes and real numbers. -/

namespace HalfPrecision.Value

/-- The word that a value is. -/
def word (value : Value) : Except Fault Int :=
  match value.integer? with
  | some number => .ok number
  | none => .error (.operands .bitAnd value.kind .int)

/-- The largest count of digits in base `2 ^ 30` that an integer may have. -/
def maxWideDigits : Nat := 2305843009213693945

/-- Shifts an integer to the left. -/
def shiftedLeft (number amount : Int) : Except Fault Int :=
  if amount < 0 then .error .negativeShift
  else if number = 0 then .ok 0
  else if maxWideDigits < (bitLength number.natAbs + 29) / 30 + (amount.toNat + 29) / 30 then .error .shiftTooLong
  else .ok (number * (1 <<< amount.toNat : Nat))

/-- The count of bits by which a one is shifted to the left. -/
def shiftCount (value : Value) : Except Fault Nat :=
  match value.integer? with
  | some number => (shiftedLeft 1 number).map fun _ => number.toNat
  | none => .error (.operands .shiftLeft .int value.kind)

/-- Whether a value is a real number that is at most an integer. -/
def atMost (bound : Int) (value : Value) : Except Fault Bool :=
  match value with
  | complex _ _ => .error (.unordered .complex)
  | decimal (.nan _ _ _) => .error (.decimal .invalid)
  | _ =>
    match value.number? with
    | some (real, _) => .ok (real.atMost bound)
    | none => .error (.unordered value.kind)

/-- The rounding mode whose number a value equals. -/
def mode (value : Value) : Except Fault RoundingMode :=
  if value.isSignaling then .error (.decimal .invalid)
  else match [0, 1, 2, 3, 4].find? fun (number : Int) => value.equal (.int number) with
    | some number => .ok (RoundingMode.ofNumber number)
    | none => .ok .unlisted

/-- The binary32 pattern nearest to a rational through binary64. -/
def singleOfRat (value : Rat) : Nat :=
  match Binary64.ofRat? value with
  | some number => number.toSingle
  | none => Format.single.signed (decide (value < 0)) Format.single.exponentMask

/-- The binary32 pattern nearest to a real number. -/
def toSingle (value : Value) : Except Fault Nat :=
  match value with
  | bool truth => .ok (singleOfRat (if truth then 1 else 0))
  | int number => .ok (singleOfRat number)
  | float number => .ok number.toSingle
  | fraction number => .ok (singleOfRat number)
  | _ => .error (.notReal value.kind)

/-- The bits of an integer, or the binary32 pattern nearest to another real number. -/
def singleWord (value : Value) : Except Fault Int :=
  match value.integer? with
  | some number => .ok number
  | none => value.toSingle.map fun pattern => (pattern : Int)

/-- The rational as a binary64 number, if it is in range. -/
def finiteNumber (value : Rat) (fault : Fault) : Except Fault Binary64 :=
  match Binary64.ofRat? value with
  | some number => .ok number
  | none => .error fault

/-- The binary64 number that a numeral or a real number denotes. -/
def toBinary64 (value : Value) : Except Fault Binary64 :=
  match value with
  | bool truth => finiteNumber (if truth then 1 else 0) .integerTooLarge
  | int number => finiteNumber number .integerTooLarge
  | float number => .ok number
  | text content => (Binary64.ofText content).mapError .numeral
  | brokenText codes => .error (.numeral (.brokenReal codes))
  | bytes content => (Binary64.ofBytes content).mapError .numeral
  | fraction number => finiteNumber number .fractionTooLarge
  | decimal number =>
    match number.toBinary64? with
    | some nearest => .ok nearest
    | none => .error .signalingNaN
  | _ => .error (.notNumeric value.kind)

end HalfPrecision.Value
