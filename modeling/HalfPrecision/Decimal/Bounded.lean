import HalfPrecision.Decimal

/-!
This file defines arithmetic of decimals with 28 digits. Results are rounded to the even neighbour from the middle, and
the place of a leading digit is at most a million places away from the point.
-/

namespace HalfPrecision.Decimal

/-- Why an operation on decimals has no result. -/
inductive Refusal where
  /-- A signaling NaN takes part, or infinities cancel, or a NaN is to be ordered. -/
  | invalid
  /-- A whole quotient has more digits than results may have. -/
  | longQuotient
  | overflow
deriving DecidableEq, Repr

def Refusal.message : Refusal → String
  | .invalid => "[<class 'decimal.InvalidOperation'>]"
  | .longQuotient => "[<class 'decimal.DivisionImpossible'>]"
  | .overflow => "[<class 'decimal.Overflow'>]"

/-- The largest count of digits of a result. -/
def precision : Nat := 28

/-- The largest place of a leading digit. -/
def maxLeading : Int := 999999

/-- The smallest place of any digit. -/
def minPlace : Int := 1 - maxLeading - precision

/-- The place of the leading digit. -/
def leading (coefficient : Nat) (exponent : Int) : Int := exponent + decimalLength coefficient - 1

/-- A coefficient without its last `count` digits, rounded to the even neighbour from the middle. -/
def dropDigits (count coefficient : Nat) : Nat :=
  if decimalLength coefficient < count then 0
  else (roundHalfEven (coefficient / (10 : Rat) ^ (count : Int))).toNat

/-- The decimal with a coefficient and an exponent, rounded to the digits and places of results. -/
def rounded (negative : Bool) (coefficient : Nat) (exponent : Int) : Except Refusal Decimal :=
  if coefficient = 0 then .ok (.finite negative 0 (max minPlace (min maxLeading exponent)))
  else
    let place := max (leading coefficient exponent - (precision - 1)) minPlace
    let (kept, exponent) :=
      if place ≤ exponent then (coefficient, exponent) else (dropDigits (place - exponent).toNat coefficient, place)
    if kept ≠ 0 ∧ maxLeading < leading kept exponent then .error .overflow else .ok (.finite negative kept exponent)

/-- The decimal with the other sign. -/
def negated : Decimal → Except Refusal Decimal
  | .finite negative coefficient exponent => rounded (!negative) coefficient exponent
  | .infinite negative => .ok (.infinite !negative)
  | .nan negative signaling payload => if signaling then .error .invalid else .ok (.nan negative false payload)

/-- A term of a sum that is too small to change more than the rounding is replaced by a single digit behind the
digits of the other term. -/
def absorbed (coefficient : Nat) (exponent : Int) (other : Nat) (otherExponent : Int) : Nat × Int :=
  let place := exponent + min (-1) (decimalLength coefficient - (precision : Int) - 2)
  if leading other otherExponent < place then (1, place) else (other, otherExponent)

/-- The sum of two finite decimals that are not zero, of which the first has the higher leading digit. -/
def sumOfFinite (negative : Bool) (coefficient : Nat) (exponent : Int) (otherNegative : Bool) (other : Nat)
    (otherExponent : Int) : Except Refusal Decimal :=
  let (other, otherExponent) := absorbed coefficient exponent other otherExponent
  let place := min exponent otherExponent
  let shifted := fun (negative : Bool) (coefficient : Nat) (exponent : Int) =>
    let magnitude : Int := (coefficient * Nat.pow 10 (exponent - place).toNat : Nat)
    if negative then -magnitude else magnitude
  let sum := shifted negative coefficient exponent + shifted otherNegative other otherExponent
  rounded (decide (sum < 0)) sum.natAbs place

/-- The sum of a decimal and an integer. -/
def plus (decimal : Decimal) (number : Int) : Except Refusal Decimal :=
  match decimal with
  | .finite negative coefficient exponent =>
    if coefficient = 0 then rounded (decide (number < 0)) number.natAbs 0
    else if number = 0 then rounded negative coefficient exponent
    else if leading number.natAbs 0 ≤ leading coefficient exponent then
      sumOfFinite negative coefficient exponent (decide (number < 0)) number.natAbs 0
    else sumOfFinite (decide (number < 0)) number.natAbs 0 negative coefficient exponent
  | .infinite negative => .ok (.infinite negative)
  | .nan negative signaling payload => if signaling then .error .invalid else .ok (.nan negative false payload)

/-- The whole part of a magnitude. The exponent must be so small that it can be multiplied out. -/
def wholePart (coefficient : Nat) (exponent : Int) : Nat :=
  if 0 ≤ exponent then coefficient * Nat.pow 10 exponent.toNat
  else if decimalLength coefficient < exponent.natAbs then 0
  else coefficient / Nat.pow 10 exponent.natAbs

/-- The whole quotient of a decimal by a positive integer. -/
def wholeQuotient (decimal : Decimal) (divisor : Nat) : Except Refusal Decimal :=
  match decimal with
  | .finite negative coefficient exponent =>
    if coefficient = 0 then .ok (.finite negative 0 0)
    else if (precision : Int) + decimalLength divisor < leading coefficient exponent then .error .longQuotient
    else
      let quotient := wholePart coefficient exponent / divisor
      if precision < decimalLength quotient then .error .longQuotient else .ok (.finite negative quotient 0)
  | .infinite negative => .ok (.infinite negative)
  | .nan negative signaling payload => if signaling then .error .invalid else .ok (.nan negative false payload)

end HalfPrecision.Decimal
