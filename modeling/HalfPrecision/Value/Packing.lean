import HalfPrecision.Format.Normalized
import HalfPrecision.Value.Arithmetic

/-! This file defines shifting, packing and decoding for operands that are dynamic values. -/

namespace HalfPrecision.Value

/-- The low bits of a word. The count is read before the word. -/
def lowBits (length word : Value) : Except Fault Nat := do
  let count ← length.shiftCount
  let number ← word.word
  return HalfPrecision.lowBits count number

/-- The largest width of a field of text. -/
def maxFieldWidth : Nat := 0x7fffffffffffffff

/-- The low bits of a word as hexadecimal text. The quotient of the count is written first, and read as a width last. -/
def hexField (length word : Value) : Except Fault String := do
  length.checkQuotient 4
  let count ← length.shiftCount
  let number ← word.word
  if maxFieldWidth < count / 4 then throw .fieldTooWide
  return HalfPrecision.hexField count number

/-- The format with two widths, whose masks are made by shifts of a one. -/
def formatOf (width fractionWidth : Int) : Except Fault Format := do
  let shifts := [width - 1, fractionWidth - 1, fractionWidth, width - fractionWidth - 2]
  let _ ← shifts.mapM fun amount => shiftedLeft 1 amount
  match Format.ofWidths? width fractionWidth with
  | some format => return format
  | none => throw .negativeShift

/-- What is added to a quotient that is rounded downward: the sign itself, if it counts as true. -/
def signIncrement (quotient : Int) (sign : Value) : Except Fault Int := do
  if !sign.isTrue then return 0
  match sign.integer? with
  | some number => return number
  | none =>
    let _ ← sign.plus .increase quotient
    throw (.missing sign.kind "bit_length")

/-- Multiplies an integer by a power of two, whose exponent is not positive and has its sign turned. -/
def lengthened (significand shift : Value) : Except Fault Int := do
  match (← shift.negated).integer?, significand.integer? with
  | none, _ => throw (.operands .shiftLeft significand.kind shift.kind)
  | some _, none => throw (.operands .shiftLeft significand.kind .int)
  | some amount, some number => shiftedLeft number amount

/-- Divides an integer by a positive power of two and rounds. -/
def shortened (significand sign shift mode : Value) : Except Fault (Int × Bool) := do
  match (← shift.plus .add (-1)).integer? with
  | none => throw (.operands .shiftLeft .int shift.kind)
  | some lower =>
    let _ ← shiftedLeft 1 lower
    let number ← significand.word
    let known ← mode.mode
    let down := HalfPrecision.shiftRightAndRound .towardZero false number (lower + 1)
    if known = .downward ∧ number % (1 <<< (lower + 1).toNat : Nat) ≠ 0 then
      let rounded := down.1 + (← signIncrement down.1 sign)
      return (rounded, decide (bitLength down.1.natAbs < bitLength rounded.natAbs))
    else return HalfPrecision.shiftRightAndRound known sign.isTrue number (lower + 1)

/-- Divides a significand by a power of two and rounds. -/
def shiftRightAndRound (significand sign shift mode : Value) : Except Fault (Int × Bool) := do
  if ← shift.atMost 0 then return (← lengthened significand shift, false)
  else shortened significand sign shift mode

/-- The sign bit of a packed value. -/
def signOf (sign : Value) : Except Fault Bool :=
  match sign.kind with
  | .null => .error (.operands .multiply .int .null)
  | _ => .ok sign.isTrue

/-- Whether an overflow in a mode gives the largest finite value on the positive side. -/
def saturatesUnsigned (sign : Value) (mode : RoundingMode) : Bool :=
  !sign.isTrue && (mode == .downward || mode == .towardZero)

/-- Packs an overflow. -/
def overflowed (format : Format) (sign mode : Value) : Except Fault Nat := do
  let known ← mode.mode
  if saturatesUnsigned sign known then return format.largestFinite
  return format.overflowed known (← signOf sign)

/-- Packs a significand that is not zero, with an integer exponent. The mode is looked at if bits are lost or the
value overflows. -/
def packed (format : Format) (sign mode : Value) (significand exponent : Int) : Except Fault Nat := do
  let lost := format.lostBits significand exponent
  let known ← if 0 < lost then (shiftedLeft 1 (lost - 1)).bind fun _ => mode.mode else pure .unlisted
  if (format.bias : Int) < (format.aligned known sign.isTrue significand exponent).2 then overflowed format sign mode
  else return format.normalized known (← signOf sign) significand exponent

/-- The count of bits that a significand loses when its value may be subnormal. -/
def subnormalShift (format : Format) (significand : Int) (exponent : Value) : Except Fault Value := do
  let turned ← exponent.negated
  let behind ← (← turned.plus .add (-(format.bias : Int))).plus .add 1
  behind.plus .add (format.excess significand)

/-- Packs a significand whose exponent is a real number but not an integer. Only an overflow has a value. -/
def packedReal (format : Format) (significand exponent sign mode : Value) (number : Int) : Except Fault Nat := do
  if ← exponent.atMost (-(format.bias : Int)) then
    let shift ← subnormalShift format number exponent
    let _ ← significand.shiftRightAndRound sign shift mode
    throw (.operands .shiftLeft .int exponent.kind)
  else
    let (_, carry) ← significand.shiftRightAndRound sign (.int (format.excess number)) mode
    let leading ← if carry then exponent.plus .add 1 else pure exponent
    if leading.isAbove format.bias then overflowed format sign mode
    else
      let _ ← leading.plus .add format.bias
      throw (.operands .shiftLeft exponent.kind .int)

/-- Packs a significand with an exponent into a format. -/
def normalized (format : Format) (significand exponent sign mode : Value) : Except Fault Nat := do
  if ← significand.equals (.int 0) then return format.signed (← signOf sign) 0
  let _ ← exponent.atMost (-(format.bias : Int))
  match significand.integer?, exponent.integer? with
  | none, _ => throw (.missing significand.kind "bit_length")
  | some number, some power => packed format sign mode number power
  | some number, none => packedReal format significand exponent sign mode number

/-- Decodes the bits of a word. -/
def decoded (format : Format) (word : Value) : Except Fault Decoded :=
  word.word.map format.decode

/-- Decodes the bits of an integer, or the binary32 number nearest to another real number. -/
def decodedSingle (number : Value) : Except Fault Decoded :=
  number.singleWord.map Format.single.decode

end HalfPrecision.Value
