import HalfPrecision.Proofs.Format.Layout
import HalfPrecision.Rounding

/-!
This file describes the rounding of a shifted significand by the fraction that the shift cuts off, in place of its two
highest lost bits.
-/

namespace HalfPrecision

namespace RoundingMode

/-- Whether a mode takes the upper neighbour of a value of a sign, which is a fraction of the way up from the lower. -/
def Raises (mode : RoundingMode) (negative : Bool) (odd : Prop) (fraction : Rat) : Prop :=
  match mode with
  | .nearestEven => 1 / 2 < fraction ∨ fraction = 1 / 2 ∧ odd
  | .nearestAway => 1 / 2 ≤ fraction
  | .downward => 0 < fraction ∧ negative = true
  | .upward => 0 < fraction ∧ negative = false
  | .towardZero | .unlisted => False

/-- No mode moves a value that loses nothing. -/
theorem not_raises_zero (mode : RoundingMode) (negative : Bool) (odd : Prop) : ¬mode.Raises negative odd 0 := by
  cases mode <;> simp [Raises]

/-- The highest lost bit and the presence of others tell how the lost fraction compares with one half. -/
theorem increments_iff (mode : RoundingMode) (negative odd half rest : Bool) {fraction : Rat}
    (nonnegative : 0 ≤ fraction) (halfway : half = true ↔ 1 / 2 ≤ fraction)
    (nothing : rest = false ↔ fraction = 0 ∨ fraction = 1 / 2) :
    mode.increments negative odd half rest = true ↔ mode.Raises negative (odd = true) fraction := by
  have lost : (half || rest) = true ↔ 0 < fraction := by
    rw [Bool.or_eq_true, halfway, ← Bool.not_eq_false rest, nothing, not_or, lt_iff_le_and_ne]
    constructor
    · rintro (large | ⟨nonzero, -⟩)
      · exact ⟨nonnegative, by linarith⟩
      · exact ⟨nonnegative, Ne.symm nonzero⟩
    · rintro ⟨-, nonzero⟩
      by_cases large : 1 / 2 ≤ fraction
      · exact Or.inl large
      · exact Or.inr ⟨Ne.symm nonzero, by linarith⟩
  cases mode with
  | nearestEven =>
      simp only [increments, Raises, Bool.and_eq_true, Bool.or_eq_true, halfway]
      rw [← Bool.not_eq_false rest, nothing]
      constructor
      · rintro ⟨large, uneven | tie⟩
        · exact Or.inl (lt_of_le_of_ne large fun middle => uneven (Or.inr middle.symm))
        · exact (lt_or_eq_of_le large).imp id fun middle => ⟨middle.symm, tie⟩
      · rintro (large | ⟨middle, tie⟩)
        · refine ⟨large.le, Or.inl ?_⟩
          rintro (zero | middle) <;> linarith
        · exact ⟨middle.ge, Or.inr tie⟩
  | nearestAway => exact halfway
  | downward => simp only [increments, Raises, Bool.and_eq_true, lost]
  | upward => simp only [increments, Raises, Bool.and_eq_true, lost, Bool.not_eq_true']
  | towardZero => simp [increments, Raises]
  | unlisted => simp [increments, Raises]

end RoundingMode

/-- The whole part of a significand divided by `2 ^ shift`. -/
def shiftedDown (significand : Nat) (shift : Int) : Nat :=
  significand * 2 ^ (-shift).toNat / 2 ^ shift.toNat

/-- What the whole part leaves out. -/
def lostFraction (significand : Nat) (shift : Int) : Rat :=
  (significand * 2 ^ (-shift).toNat % 2 ^ shift.toNat : Nat) / (2 ^ shift.toNat : Nat)

theorem lostFraction_nonneg (significand : Nat) (shift : Int) : 0 ≤ lostFraction significand shift := by
  unfold lostFraction
  positivity

theorem lostFraction_lt_one (significand : Nat) (shift : Int) : lostFraction significand shift < 1 := by
  have positive := Nat.two_pow_pos shift.toNat
  unfold lostFraction
  rw [div_lt_one (by exact_mod_cast positive)]
  exact_mod_cast Nat.mod_lt _ positive

theorem shiftedDown_add_lostFraction (significand : Nat) (shift : Int) :
    (shiftedDown significand shift : Rat) + lostFraction significand shift = significand * (2 : Rat) ^ (-shift) := by
  have positive : (0 : Rat) < (2 ^ shift.toNat : Nat) := by exact_mod_cast Nat.two_pow_pos shift.toNat
  have split := Nat.div_add_mod (significand * 2 ^ (-shift).toNat) (2 ^ shift.toNat)
  have powers : (2 : Rat) ^ (-shift) = (2 : Rat) ^ (-shift).toNat / (2 : Rat) ^ shift.toNat := by
    rw [← zpow_natCast, ← zpow_natCast, ← zpow_sub₀ (by norm_num)]
    congr 1
    omega
  rw [powers, ← mul_div_assoc, eq_div_iff (by positivity), lostFraction, shiftedDown, add_mul]
  push_cast at positive split ⊢
  rw [div_mul_cancel₀ _ positive.ne', mul_comm]
  exact_mod_cast split

theorem lostFraction_of_nonpos (significand : Nat) {shift : Int} (gains : shift ≤ 0) :
    lostFraction significand shift = 0 := by
  rw [lostFraction, Int.toNat_of_nonpos gains, pow_zero, Nat.mod_one]
  simp

/-- A significand with no more bits than a shift leaves room for becomes as short as the room. -/
theorem shiftedDown_lt {significand length : Nat} {shift : Int}
    (short : (bitLength significand : Int) ≤ length + shift) :
    shiftedDown significand shift < 2 ^ length := by
  rw [shiftedDown, Nat.div_lt_iff_lt_mul (Nat.two_pow_pos _), ← pow_add]
  calc significand * 2 ^ (-shift).toNat
      < 2 ^ bitLength significand * 2 ^ (-shift).toNat :=
        Nat.mul_lt_mul_of_pos_right (lt_two_pow_bitLength significand) (Nat.two_pow_pos _)
    _ = 2 ^ (bitLength significand + (-shift).toNat) := (pow_add _ _ _).symm
    _ ≤ 2 ^ (length + shift.toNat) := Nat.pow_le_pow_right (by decide) (by omega)

theorem le_shiftedDown {significand length : Nat} {shift : Int} (positive : 0 < significand)
    (long : length + shift < bitLength significand) : 2 ^ length ≤ shiftedDown significand shift := by
  have longer := bitLength_pos positive
  have leading : 2 ^ (bitLength significand - 1) ≤ significand := two_pow_le_of_bitLength (by omega)
  rw [shiftedDown, Nat.le_div_iff_mul_le (Nat.two_pow_pos _), ← pow_add]
  calc 2 ^ (length + shift.toNat)
      ≤ 2 ^ (bitLength significand - 1 + (-shift).toNat) := Nat.pow_le_pow_right (by decide) (by omega)
    _ = 2 ^ (bitLength significand - 1) * 2 ^ (-shift).toNat := pow_add _ _ _
    _ ≤ significand * 2 ^ (-shift).toNat := Nat.mul_le_mul_right _ leading

theorem shiftedDown_succ (significand lower : Nat) :
    shiftedDown significand (lower + 1 : Nat) = significand / (2 * 2 ^ lower) := by
  rw [shiftedDown, Int.toNat_natCast, Int.toNat_of_nonpos (by omega), pow_zero, Nat.mul_one, pow_succ']

theorem lostFraction_succ (significand lower : Nat) :
    lostFraction significand (lower + 1 : Nat) = (significand % (2 * 2 ^ lower) : Nat) / (2 * 2 ^ lower : Nat) := by
  rw [lostFraction, Int.toNat_natCast, Int.toNat_of_nonpos (by omega), pow_zero, Nat.mul_one, pow_succ']

/-- The lost part is the highest lost bit and what stands below it. -/
private theorem mod_two_mul_eq (significand lower : Nat) :
    significand % (2 * 2 ^ lower) = significand % 2 ^ lower + 2 ^ lower * (significand / 2 ^ lower % 2) := by
  rw [Nat.mul_comm 2, Nat.mod_mul]

private theorem half_mul_cast (lower : Nat) : (1 / 2 : Rat) * (2 * 2 ^ lower : Nat) = (2 ^ lower : Nat) := by
  push_cast
  ring

theorem half_le_lostFraction_iff (significand lower : Nat) :
    1 / 2 ≤ lostFraction significand (lower + 1 : Nat) ↔ significand / 2 ^ lower % 2 = 1 := by
  have small := Nat.mod_lt significand (Nat.two_pow_pos lower)
  rw [lostFraction_succ, le_div_iff₀ (by positivity), half_mul_cast, Nat.cast_le, mod_two_mul_eq]
  rcases Nat.mod_two_eq_zero_or_one (significand / 2 ^ lower) with zero | one
  · simp [zero, small]
  · simp [one]

theorem lostFraction_eq_iff (significand lower : Nat) :
    lostFraction significand (lower + 1 : Nat) = 0 ∨ lostFraction significand (lower + 1 : Nat) = 1 / 2 ↔
      significand % 2 ^ lower = 0 := by
  have small := Nat.mod_lt significand (Nat.two_pow_pos lower)
  rw [lostFraction_succ, div_eq_zero_iff, div_eq_iff (by positivity), half_mul_cast, Nat.cast_inj, Nat.cast_eq_zero,
    Nat.cast_eq_zero, mod_two_mul_eq]
  rcases Nat.mod_two_eq_zero_or_one (significand / 2 ^ lower) with zero | one
  · simp [zero, small.ne]
  · simp [one]

/-- The increment that a shift by a positive count decides on. -/
theorem shiftRightAndRound_succ (mode : RoundingMode) (negative : Bool) (significand lower : Nat) :
    ∃ rounded : Nat, shiftRightAndRound mode negative significand (lower + 1 : Nat) =
        ((rounded : Int), decide (bitLength (significand / (2 * 2 ^ lower)) < bitLength rounded)) ∧
      rounded = if mode.increments negative (decide (significand / (2 * 2 ^ lower) % 2 = 1))
        (decide (significand / 2 ^ lower % 2 = 1)) (decide (significand % 2 ^ lower ≠ 0))
        then significand / (2 * 2 ^ lower) + 1 else significand / (2 * 2 ^ lower) := by
  refine ⟨_, ?_, rfl⟩
  have positive : ¬((lower + 1 : Nat) : Int) ≤ 0 := by omega
  unfold shiftRightAndRound
  rw [if_neg positive, Int.toNat_natCast, Nat.add_sub_cancel, Nat.one_shiftLeft]
  have quotient : (significand : Int) / (2 * (2 ^ lower : Nat)) = (significand / (2 * 2 ^ lower) : Nat) := by
    push_cast
    rfl
  have odd : (((significand / (2 * 2 ^ lower) : Nat) : Int) % 2 = 1) = (significand / (2 * 2 ^ lower) % 2 = 1) := by
    norm_cast
  have half : ((significand : Int) / (2 ^ lower : Nat) % 2 = 1) = (significand / 2 ^ lower % 2 = 1) := by
    norm_cast
  have rest : ((significand : Int) % (2 ^ lower : Nat) ≠ 0) = (significand % 2 ^ lower ≠ 0) := by
    norm_cast
  simp only [quotient, odd, half, rest]
  split_ifs <;> norm_cast

/-- The whole part of a shifted significand, or one more if the mode takes the upper neighbour. -/
structure ShiftRounds (mode : RoundingMode) (negative : Bool) (significand : Nat) (shift : Int) (rounded : Nat) :
    Prop where
  raised : mode.Raises negative (shiftedDown significand shift % 2 = 1) (lostFraction significand shift) →
    rounded = shiftedDown significand shift + 1
  kept : ¬mode.Raises negative (shiftedDown significand shift % 2 = 1) (lostFraction significand shift) →
    rounded = shiftedDown significand shift

theorem ShiftRounds.near {mode : RoundingMode} {negative : Bool} {significand rounded : Nat} {shift : Int}
    (shifted : ShiftRounds mode negative significand shift rounded) :
    rounded = shiftedDown significand shift + 1 ∨ rounded = shiftedDown significand shift :=
  (em _).imp shifted.raised shifted.kept

/-- A shift rounds, and its carry tells whether the result is longer than the whole part. -/
theorem shiftRightAndRound_eq (mode : RoundingMode) (negative : Bool) (significand : Nat) (shift : Int) :
    ∃ rounded : Nat, ShiftRounds mode negative significand shift rounded ∧
      shiftRightAndRound mode negative significand shift =
        ((rounded : Int), decide (bitLength (shiftedDown significand shift) < bitLength rounded)) := by
  by_cases gains : shift ≤ 0
  · refine ⟨shiftedDown significand shift, ⟨?_, fun _ => rfl⟩, ?_⟩
    · rw [lostFraction_of_nonpos significand gains]
      exact fun raised => absurd raised (mode.not_raises_zero negative _)
    · unfold shiftRightAndRound
      rw [if_pos gains, shiftedDown, Int.toNat_of_nonpos gains, Nat.one_shiftLeft]
      simp
  obtain ⟨lower, rfl⟩ : ∃ lower : Nat, shift = (lower + 1 : Nat) := ⟨(shift - 1).toNat, by omega⟩
  obtain ⟨rounded, result, decided⟩ := shiftRightAndRound_succ mode negative significand lower
  have decision := mode.increments_iff negative (decide (significand / (2 * 2 ^ lower) % 2 = 1))
    (decide (significand / 2 ^ lower % 2 = 1)) (decide (significand % 2 ^ lower ≠ 0))
    (lostFraction_nonneg significand (lower + 1 : Nat))
    (by rw [decide_eq_true_iff, half_le_lostFraction_iff])
    (by rw [decide_eq_false_iff_not, not_not, lostFraction_eq_iff])
  rw [decide_eq_true_iff] at decision
  refine ⟨rounded, ⟨?_, ?_⟩, ?_⟩ <;> rw [shiftedDown_succ]
  · intro raised
    rw [decided, if_pos (decision.mpr raised)]
  · intro kept
    rw [decided, if_neg (mt decision.mp kept)]
  · exact result

end HalfPrecision
