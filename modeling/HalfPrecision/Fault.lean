import HalfPrecision.Decimal.Bounded
import HalfPrecision.Numeral.Integer
import HalfPrecision.Value.Kind

/-! This file defines why an operation on dynamic values fails, and the messages of the failures. -/

namespace HalfPrecision

/-- The operators that refuse operands of a wrong kind. -/
inductive Operator where
  | bitAnd
  | shiftLeft
  | floorDivide
  | multiply
  | add
  | increase
deriving DecidableEq, Repr

def Operator.symbol : Operator → String
  | .bitAnd => "&"
  | .shiftLeft => "<<"
  | .floorDivide => "//"
  | .multiply => "*"
  | .add => "+"
  | .increase => "+="

/-- Why an operation fails. -/
inductive Fault where
  /-- An operator has no meaning for the kinds of its operands. -/
  | operands (operator : Operator) (left right : Kind)
  /-- Values of a kind have no order with integers. -/
  | unordered (kind : Kind)
  /-- Values of a kind have no sign. -/
  | unsigned (kind : Kind)
  /-- Values of a kind lack what an operation asks of them. -/
  | missing (kind : Kind) (feature : String)
  /-- A real number was expected. -/
  | notReal (kind : Kind)
  /-- A numeral or a real number was expected. -/
  | notNumeric (kind : Kind)
  | negativeShift
  | numeral (refusal : Numeral.Refusal)
  /-- An integer beyond the range of binary64. -/
  | integerTooLarge
  /-- A fraction beyond the range of binary64. -/
  | fractionTooLarge
  | signalingNaN
  /-- An operation on decimals has no result. -/
  | decimal (refusal : Decimal.Refusal)
  /-- A shift to the left by more bits than any integer has. -/
  | shiftTooLong
  /-- A field of more characters than any text has. -/
  | fieldTooWide
  /-- A byte string where signs are looked for in a text. -/
  | bytesForText
  /-- An integer too long for a text. -/
  | textTooLong
  /-- A section of a vector table that is not known. -/
  | unknownSection (name : String)
  /-- Values of a kind cannot be keys. -/
  | notKey (kind : Kind)
  | signalingKey
deriving DecidableEq

def Fault.message : Fault → String
  | .operands operator left right =>
    "unsupported operand type(s) for " ++ operator.symbol ++ ": '" ++ left.operandName ++ "' and '" ++
      right.operandName ++ "'"
  | .unordered kind => "'<=' not supported between instances of '" ++ kind.operandName ++ "' and 'int'"
  | .unsigned kind => "bad operand type for unary -: '" ++ kind.operandName ++ "'"
  | .missing kind feature => "'" ++ kind.operandName ++ "' object has no attribute '" ++ feature ++ "'"
  | .notReal kind => "expected a real number, got " ++ kind.name
  | .notNumeric kind => "float() argument must be a string or a real number, not '" ++ kind.operandName ++ "'"
  | .negativeShift => "negative shift count"
  | .numeral refusal => refusal.message
  | .integerTooLarge => "int too large to convert to float"
  | .fractionTooLarge => "integer division result too large for a float"
  | .signalingNaN => "cannot convert signaling NaN to float"
  | .decimal refusal => refusal.message
  | .shiftTooLong => "too many digits in integer"
  | .fieldTooWide => "Too many decimal digits in format string"
  | .bytesForText => "a bytes-like object is required, not 'str'"
  | .textTooLong =>
    "Exceeds the limit (4300 digits) for integer string conversion; use sys.set_int_max_str_digits() to increase the limit"
  | .unknownSection name => String.ofList (Text.quoted name.toList)
  | .notKey kind => "unhashable type: '" ++ kind.name ++ "'"
  | .signalingKey => "Cannot hash a signaling NaN value"

end HalfPrecision
