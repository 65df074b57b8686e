import HalfPrecision.Binary64
import HalfPrecision.Format.Normalized
import HalfPrecision.Half.Constants

/-! This file defines the conversions between half precision, binary32 and binary64. -/

namespace HalfPrecision.Half

/-- The half nearest to the binary32 value in the low 32 bits of a word. All NaNs become one. -/
def ofSingle (word : Int) : Nat :=
  let decoded := Format.single.decode word
  match decoded.category with
  | .nan => nan
  | .infinite => Format.half.signed decoded.negative Format.half.exponentMask
  | _ => Format.half.normalized .nearestEven decoded.negative decoded.significand decoded.exponent

/-- The half nearest to the binary32 number that is nearest to a binary64 number. -/
def ofBinary64 (number : Binary64) : Nat := ofSingle number.toSingle

/-- The binary32 pattern of the value of a half. All NaNs become one. -/
def toSingle (word : Int) : Nat :=
  let decoded := Format.half.decode word
  match decoded.category with
  | .nan => Format.single.quietNaN
  | .infinite => Format.single.signed decoded.negative Format.single.exponentMask
  | _ => Format.single.normalized .nearestEven decoded.negative decoded.significand decoded.exponent

/-- The binary64 number with the value of a half. -/
def toBinary64 (word : Int) : Binary64 := Binary64.ofSingle (toSingle word)

end HalfPrecision.Half
