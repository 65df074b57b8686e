import HalfPrecision.Word

/-! This file defines the rounding modes and the rounding of a significand that loses low bits. -/

namespace HalfPrecision

/-- How a value between two neighbours is rounded. -/
inductive RoundingMode where
  /-- To the nearest neighbour, and to the even one from the middle. -/
  | nearestEven
  | towardZero
  | downward
  | upward
  /-- To the nearest neighbour, and to the larger magnitude from the middle. -/
  | nearestAway
  /-- Drops the lost bits, and overflows to infinity. -/
  | unlisted
deriving DecidableEq, Repr

namespace RoundingMode

/-- The mode with the given number. -/
def ofNumber (number : Int) : RoundingMode :=
  if number = 0 then .nearestEven
  else if number = 1 then .towardZero
  else if number = 2 then .downward
  else if number = 3 then .upward
  else if number = 4 then .nearestAway
  else .unlisted

/-- Decides whether a truncated magnitude is increased. `half` is the highest lost bit, and `rest` tells
whether any lower lost bit is set. -/
def increments (mode : RoundingMode) (negative odd half rest : Bool) : Bool :=
  match mode with
  | .nearestEven => half && (rest || odd)
  | .towardZero => false
  | .downward => (half || rest) && negative
  | .upward => (half || rest) && !negative
  | .nearestAway => half
  | .unlisted => false

end RoundingMode

/-- Divides a significand by `2 ^ shift` and rounds. The second part tells whether the increment
made the quotient one bit longer. A shift that is not positive multiplies instead. -/
def shiftRightAndRound (mode : RoundingMode) (negative : Bool) (significand shift : Int) : Int × Bool :=
  if shift ≤ 0 then (significand * (1 <<< (-shift).toNat : Nat), false)
  else
    let lost : Int := (1 <<< (shift.toNat - 1) : Nat)
    let quotient := significand / (2 * lost)
    let half := decide (significand / lost % 2 = 1)
    let rest := decide (significand % lost ≠ 0)
    let odd := decide (quotient % 2 = 1)
    let rounded := if mode.increments negative odd half rest then quotient + 1 else quotient
    (rounded, decide (bitLength quotient.natAbs < bitLength rounded.natAbs))

end HalfPrecision
