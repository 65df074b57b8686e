import HalfPrecision.Fault
import HalfPrecision.Scaled
import HalfPrecision.Value

/-!
This file defines equality of values, which compares numbers of all kinds by their exact values. Collections equal
nothing, since no key and no result is one. A signaling NaN refuses to be compared with numbers.
-/

namespace HalfPrecision

/-- A real number in which values of different kinds are compared. -/
inductive ExtendedReal where
  | finite (value : Scaled)
  | infinite (negative : Bool)
  | nan

namespace ExtendedReal

def ofRat (value : Rat) : ExtendedReal := .finite (.ofRat value)

def ofBinary64 (number : Binary64) : ExtendedReal :=
  match number.toRat? with
  | some value => .ofRat value
  | none => if number.isNaN then .nan else .infinite number.negative

def ofDecimal : Decimal → ExtendedReal
  | .finite negative coefficient exponent =>
    .finite ⟨if negative then -(coefficient : Rat) else coefficient, exponent⟩
  | .infinite negative => .infinite negative
  | .nan _ _ _ => .nan

/-- Whether two numbers are equal. A NaN equals nothing. -/
def equal (first second : ExtendedReal) : Bool :=
  match first, second with
  | finite left, finite right => left.order right == .eq
  | infinite left, infinite right => left == right
  | _, _ => false

/-- Whether a number is at most an integer. A NaN is not. -/
def atMost (bound : Int) : ExtendedReal → Bool
  | finite value => value.order (.ofRat bound) != .gt
  | infinite negative => negative
  | nan => false

/-- Whether a number is above an integer. A NaN is not. -/
def above (bound : Int) : ExtendedReal → Bool
  | finite value => value.order (.ofRat bound) == .gt
  | infinite negative => !negative
  | nan => false

end ExtendedReal

namespace Value

/-- The real and the imaginary part of a number. -/
def number? : Value → Option (ExtendedReal × ExtendedReal)
  | bool truth => some (.ofRat (if truth then 1 else 0), .ofRat 0)
  | int number => some (.ofRat number, .ofRat 0)
  | float number => some (.ofBinary64 number, .ofRat 0)
  | complex real imaginary => some (.ofBinary64 real, .ofBinary64 imaginary)
  | fraction value => some (.ofRat value, .ofRat 0)
  | decimal number => some (.ofDecimal number, .ofRat 0)
  | _ => none

/-- Whether two numbers of any kinds are equal. -/
def equalNumbers (first second : Value) : Bool :=
  match first.number?, second.number? with
  | some left, some right => left.1.equal right.1 && left.2.equal right.2
  | _, _ => false

/-- Whether two values are equal. -/
def equal (first second : Value) : Bool :=
  match first, second with
  | null, null => true
  | int left, int right => left == right
  | float left, float right => left.hasValueOf right
  | text left, text right => left == right
  | brokenText left, brokenText right => left == right
  | bytes left, bytes right => left == right
  | date left, date right => left == right
  | dateTime left, dateTime right => left.sameTime right
  | _, _ => equalNumbers first second

/-- Whether a value is a signaling NaN. -/
def isSignaling : Value → Bool
  | decimal (.nan _ signaling _) => signaling
  | _ => false

/-- Whether a value is a number without an imaginary part. -/
def isReal (value : Value) : Bool :=
  match value.number? with
  | some (_, imaginary) => imaginary.equal (.ofRat 0)
  | none => false

/-- Whether two values are equal, if they can be compared. -/
def equals (first second : Value) : Except Fault Bool :=
  if (first.isSignaling && second.isReal) || (second.isSignaling && first.isReal) then .error (.decimal .invalid)
  else .ok (first.equal second)

end Value

end HalfPrecision
