import HalfPrecision.Proofs.Rounding.Shift

/-!
This file describes the rounding of a shifted significand by the quotient and the remainder of a division by a power of
two. A mode adds one at most, so that it makes the quotient longer only where it reaches the next power of two.
-/

namespace HalfPrecision

/-- A number that grows by one at most gets longer only at the next power of two. -/
theorem bitLength_lt_iff {number next : Nat} (step : next ≤ number + 1) :
    bitLength number < bitLength next ↔ next = 2 ^ bitLength number := by
  have below := lt_two_pow_bitLength number
  rw [← not_le, bitLength_le_iff]
  omega

namespace RoundingMode

/-- Whether a mode takes the upper neighbour of a quotient with a sign, of which a division leaves a remainder. -/
def Increases (mode : RoundingMode) (negative : Bool) (quotient remainder divisor : Nat) : Prop :=
  match mode with
  | .nearestEven => divisor < 2 * remainder ∨ 2 * remainder = divisor ∧ quotient % 2 = 1
  | .nearestAway => divisor ≤ 2 * remainder
  | .upward => 0 < remainder ∧ negative = false
  | .downward => 0 < remainder ∧ negative = true
  | .towardZero | .unlisted => False

instance (mode : RoundingMode) (negative : Bool) (quotient remainder divisor : Nat) :
    Decidable (mode.Increases negative quotient remainder divisor) :=
  match mode with
  | .nearestEven => inferInstanceAs (Decidable (divisor < 2 * remainder ∨ 2 * remainder = divisor ∧ quotient % 2 = 1))
  | .nearestAway => inferInstanceAs (Decidable (divisor ≤ 2 * remainder))
  | .upward => inferInstanceAs (Decidable (0 < remainder ∧ negative = false))
  | .downward => inferInstanceAs (Decidable (0 < remainder ∧ negative = true))
  | .towardZero | .unlisted => inferInstanceAs (Decidable False)

/-- The lost fraction is the remainder by the divisor. -/
theorem raises_div_iff (mode : RoundingMode) (negative : Bool) (quotient remainder : Nat) {divisor : Nat}
    (positive : 0 < divisor) :
    mode.Raises negative (quotient % 2 = 1) ((remainder : Rat) / divisor) ↔
      mode.Increases negative quotient remainder divisor := by
  have above : (0 : Rat) < divisor := by exact_mod_cast positive
  have lost : (0 : Rat) < remainder / divisor ↔ 0 < remainder := by
    rw [div_pos_iff_of_pos_right above, Nat.cast_pos]
  have large : (1 / 2 : Rat) < remainder / divisor ↔ divisor < 2 * remainder := by
    rw [lt_div_iff₀ above, one_div_mul_eq_div, div_lt_iff₀' two_pos]
    exact_mod_cast Iff.rfl
  have half : (1 / 2 : Rat) ≤ remainder / divisor ↔ divisor ≤ 2 * remainder := by
    rw [le_div_iff₀ above, one_div_mul_eq_div, div_le_iff₀' two_pos]
    exact_mod_cast Iff.rfl
  have middle : (remainder / divisor : Rat) = 1 / 2 ↔ 2 * remainder = divisor := by
    rw [div_eq_div_iff above.ne' two_ne_zero, mul_comm, one_mul]
    exact_mod_cast Iff.rfl
  cases mode <;> simp only [Raises, Increases, lost, large, half, middle]

end RoundingMode

/-- The quotient of a significand by a power of two, rounded by a mode. -/
def roundedQuotient (mode : RoundingMode) (negative : Bool) (significand shift : Nat) : Nat :=
  let quotient := significand / 2 ^ shift
  let remainder := significand - quotient * 2 ^ shift
  if mode.Increases negative quotient remainder (2 ^ shift) then quotient + 1 else quotient

theorem roundedQuotient_le (mode : RoundingMode) (negative : Bool) (significand shift : Nat) :
    roundedQuotient mode negative significand shift ≤ significand / 2 ^ shift + 1 := by
  unfold roundedQuotient
  dsimp only
  split_ifs <;> omega

/-- What a rounding shift makes of a significand is its rounded quotient. -/
theorem ShiftRounds.eq_roundedQuotient {mode : RoundingMode} {negative : Bool} {significand lower rounded : Nat}
    (shifted : ShiftRounds mode negative significand (lower + 1 : Nat) rounded) :
    rounded = roundedQuotient mode negative significand (lower + 1) := by
  have quotient : shiftedDown significand (lower + 1 : Nat) = significand / 2 ^ (lower + 1) := by
    rw [shiftedDown_succ, pow_succ']
  have remainder : significand - significand / 2 ^ (lower + 1) * 2 ^ (lower + 1) = significand % 2 ^ (lower + 1) := by
    rw [Nat.mul_comm, Nat.mod_eq_sub]
  have raises := mode.raises_div_iff negative (significand / 2 ^ (lower + 1)) (significand % 2 ^ (lower + 1))
    (Nat.two_pow_pos (lower + 1))
  have fraction : lostFraction significand (lower + 1 : Nat) =
      ((significand % 2 ^ (lower + 1) : Nat) : Rat) / (2 ^ (lower + 1) : Nat) := by
    rw [lostFraction_succ, pow_succ']
  rw [← fraction, ← quotient] at raises
  unfold roundedQuotient
  dsimp only
  rw [remainder, ← quotient]
  split_ifs with increases
  · exact shifted.raised (raises.mpr increases)
  · exact shifted.kept (mt raises.mp increases)

/-- A shift by a positive count divides and rounds, and its carry tells whether the next power of two is reached. -/
theorem shiftRightAndRound_eq_roundedQuotient (mode : RoundingMode) (negative : Bool) (significand lower : Nat) :
    shiftRightAndRound mode negative significand (lower + 1 : Nat) =
      ((roundedQuotient mode negative significand (lower + 1) : Int),
        decide (roundedQuotient mode negative significand (lower + 1) =
          2 ^ bitLength (significand / 2 ^ (lower + 1)))) := by
  obtain ⟨rounded, shifted, result⟩ := shiftRightAndRound_eq mode negative significand (lower + 1 : Nat)
  obtain rfl := shifted.eq_roundedQuotient
  have step := roundedQuotient_le mode negative significand (lower + 1)
  rw [result, shiftedDown_succ, ← pow_succ', decide_eq_decide.mpr (bitLength_lt_iff step)]

end HalfPrecision
