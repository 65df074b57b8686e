import HalfPrecision.Value.Operand
import HalfPrecision.Value.Text

/-! This file defines arithmetic of values: signs, sums with integers and whole quotients, each in the kind of the
number. -/

namespace HalfPrecision.Value

/-- The number with the other sign. -/
def negated (value : Value) : Except Fault Value :=
  match value with
  | float number => .ok (.float number.negate)
  | complex real imaginary => .ok (.complex real.negate imaginary.negate)
  | fraction number => .ok (.fraction (-number))
  | decimal number => (number.negated.mapError Fault.decimal).map Value.decimal
  | _ =>
    match value.integer? with
    | some number => .ok (.int (-number))
    | none => .error (.unsigned value.kind)

/-- The sum of a number and an integer. For another value it is refused as an operation of `operator`. -/
def plus (operator : Operator) (value : Value) (number : Int) : Except Fault Value :=
  match value with
  | float other => (finiteNumber number .integerTooLarge).map fun term => .float (other.add term)
  | complex real imaginary => (finiteNumber number .integerTooLarge).map fun term => .complex (real.add term) imaginary
  | fraction other => .ok (.fraction (other + number))
  | decimal other => ((other.plus number).mapError Fault.decimal).map Value.decimal
  | _ =>
    match value.integer? with
    | some other => .ok (.int (other + number))
    | none => .error (.operands operator .int value.kind)

/-- Checks that a value has a whole quotient by a positive integer, and that the quotient has a text. -/
def checkQuotient (value : Value) (divisor : Nat) : Except Fault Unit :=
  match value with
  | float _ => .ok ()
  | fraction number => (integerText (number.num / (number.den * divisor : Nat))).map fun _ => ()
  | decimal number => ((number.wholeQuotient divisor).mapError Fault.decimal).map fun _ => ()
  | _ =>
    match value.integer? with
    | some number => (integerText (number / divisor)).map fun _ => ()
    | none => .error (.operands .floorDivide value.kind .int)

/-- Whether a real number is above an integer. -/
def isAbove (bound : Int) (value : Value) : Bool :=
  match value.number? with
  | some (real, _) => real.above bound
  | none => false

end HalfPrecision.Value
