import HalfPrecision.Value.Packing
import HalfPrecision.Proofs.Format.Normalized
import HalfPrecision.Proofs.Format.Ordered

/-!
This file shows when the packing of integers fails. The bits that a significand loses are looked at through a mask, and
a mask can be made as long as it has no more digits than an integer may have. In all other cases the packed pattern is
the correctly rounded one.
-/

namespace HalfPrecision

namespace Format

variable (format : Format)

/-- A significand that loses no bits is aligned alike in all modes. -/
theorem aligned_of_nonpos (mode : RoundingMode) (negative : Bool) {significand exponent : Int}
    (gains : format.lostBits significand exponent ≤ 0) :
    format.aligned mode negative significand exponent = format.aligned .unlisted negative significand exponent := by
  unfold aligned shiftRightAndRound
  rw [if_pos gains, if_pos gains]

end Format

namespace Value

theorem mode_int (number : Int) : (int number).mode = .ok (RoundingMode.ofNumber number) := by
  unfold mode
  simp only [isSignaling, equal, Bool.false_eq_true, if_false]
  by_cases zero : number = 0
  · simp [zero]
  by_cases one : number = 1
  · simp [one]
  by_cases two : number = 2
  · simp [two]
  by_cases three : number = 3
  · simp [three]
  by_cases four : number = 4
  · simp [four]
  simp [zero, one, two, three, four, RoundingMode.ofNumber]

theorem isTrue_toNat (negative : Bool) : (int negative.toNat).isTrue = negative := by
  cases negative <;> rfl

theorem signOf_toNat (negative : Bool) : signOf (int negative.toNat) = .ok negative := by
  cases negative <;> rfl

/-- Whether a number has too many digits once it is shifted to the left. Zero never has. -/
def ExceedsDigits (number count : Nat) : Prop :=
  number ≠ 0 ∧ maxWideDigits < (bitLength number + 29) / 30 + (count + 29) / 30

instance (number count : Nat) : Decidable (ExceedsDigits number count) :=
  inferInstanceAs (Decidable (_ ∧ _))

theorem shiftedLeft_natCast (number count : Nat) :
    shiftedLeft number count =
      if ExceedsDigits number count then .error .shiftTooLong else .ok ((number * 2 ^ count : Nat) : Int) := by
  unfold shiftedLeft ExceedsDigits
  rw [if_neg (by omega), Int.natAbs_natCast, Int.toNat_natCast, Nat.one_shiftLeft, Nat.cast_mul]
  by_cases zero : number = 0
  · simp [zero]
  · simp only [zero, Nat.cast_eq_zero, ne_eq, not_false_eq_true, true_and, if_false]

/-- The largest count of bits by which a one can be shifted to the left. -/
def maxShift : Nat := 30 * (maxWideDigits - 1)

/-- A single bit is shifted to each place that an integer reaches. -/
theorem shiftedLeft_one (count : Nat) :
    shiftedLeft 1 count = if maxShift < count then .error .shiftTooLong else .ok ((1 <<< count : Nat) : Int) := by
  have exceeds : ExceedsDigits 1 count ↔ maxShift < count := by
    have single : (bitLength 1 + 29) / 30 = 1 := by decide
    unfold ExceedsDigits maxShift maxWideDigits
    omega
  have result := shiftedLeft_natCast 1 count
  rwa [Nat.one_mul, ← Nat.one_shiftLeft, if_congr exceeds rfl rfl] at result

theorem overflowed_int (format : Format) (negative : Bool) (number : Int) :
    overflowed format (int negative.toNat) (int number) =
      .ok (format.overflowed (RoundingMode.ofNumber number) negative) := by
  unfold overflowed saturatesUnsigned
  rw [mode_int, isTrue_toNat, signOf_toNat]
  cases negative <;> cases RoundingMode.ofNumber number <;> rfl

/-- The mode matters only if bits are lost, and then the mask of them is made first. -/
theorem packed_int (format : Format) {significand : Int} (nonzero : significand ≠ 0) (exponent number : Int)
    (negative : Bool) :
    packed format (int negative.toNat) (int number) significand exponent =
      if (maxShift : Int) < format.lostBits significand exponent - 1 then .error .shiftTooLong
      else .ok (format.normalized (RoundingMode.ofNumber number) negative significand exponent) := by
  have finish (known : RoundingMode) (same : format.aligned known negative significand exponent =
      format.aligned (RoundingMode.ofNumber number) negative significand exponent) :
      (if (format.bias : Int) < (format.aligned known negative significand exponent).2 then
        overflowed format (int negative.toNat) (int number)
      else (signOf (int negative.toNat)).bind fun sign => .ok (format.normalized known sign significand exponent)) =
        .ok (format.normalized (RoundingMode.ofNumber number) negative significand exponent) := by
    rw [overflowed_int, signOf_toNat]
    unfold Format.normalized
    dsimp only [Except.bind]
    rw [if_neg nonzero, if_neg nonzero, same]
    split_ifs <;> rfl
  unfold packed
  rw [isTrue_toNat, mode_int]
  by_cases lost : 0 < format.lostBits significand exponent
  · obtain ⟨count, counted⟩ : ∃ count : Nat, format.lostBits significand exponent = (count + 1 : Nat) :=
      ⟨(format.lostBits significand exponent - 1).toNat, by omega⟩
    rw [counted, if_pos (by omega), show ((count + 1 : Nat) : Int) - 1 = count by omega, shiftedLeft_one]
    by_cases large : maxShift < count
    · rw [if_pos large, if_pos (by omega)]
      rfl
    · rw [if_neg large, if_neg (by omega)]
      exact finish _ rfl
  · rw [if_neg lost, if_neg (by omega)]
    exact finish .unlisted (format.aligned_of_nonpos _ negative (not_lt.mp lost)).symm

/-- Packing integers gives the rounded pattern unless the mask of the lost bits cannot be made. -/
theorem normalized_int (format : Format) (significand exponent number : Int) (negative : Bool) :
    Value.normalized format (int significand) (int exponent) (int negative.toNat) (int number) =
      if significand ≠ 0 ∧ (maxShift : Int) < format.lostBits significand exponent - 1 then .error .shiftTooLong
      else .ok (format.normalized (RoundingMode.ofNumber number) negative significand exponent) := by
  have compared : (int significand).equals (int 0) = .ok (significand == 0) := by
    simp [equals, isSignaling, equal]
  unfold Value.normalized
  rw [compared, signOf_toNat]
  by_cases zero : significand = 0
  · subst zero
    rfl
  · rw [beq_eq_false_iff_ne.mpr zero]
    simp only [zero, ne_eq, not_false_eq_true, true_and]
    exact packed_int format zero exponent number negative

/-- Packing integers rounds correctly in each mode as long as the mask of the lost bits can be made. Nearest rounding
gives infinity from the point of overflow on. -/
theorem normalized_int_rounds (format : Format) (significand : Nat) (exponent number : Int) (negative : Bool) :
    format.magnitudeAt format.exponentMask = (2 : Rat) ^ (format.bias + 1) ∧
      ∃ pattern,
        format.Rounds (RoundingMode.ofNumber number) negative (leadingMagnitude significand exponent) pattern ∧
        (RoundingMode.ofNumber number = .nearestEven ∨ RoundingMode.ofNumber number = .nearestAway →
          (2 : Rat) ^ (format.bias + 1) ≤ leadingMagnitude significand exponent → pattern = format.exponentMask) ∧
        Value.normalized format (int significand) (int exponent) (int negative.toNat) (int number) =
          if significand ≠ 0 ∧ (maxShift : Int) < format.lostBits significand exponent - 1 then .error .shiftTooLong
          else .ok (pattern ||| format.signBit * negative.toNat) := by
  obtain ⟨pattern, rounds, packed⟩ :=
    format.exists_normalized_rounds (RoundingMode.ofNumber number) negative significand exponent
  have below : pattern < format.signBit := rounds.le.trans_lt format.exponentMask_lt_signBit
  refine ⟨format.magnitudeAt_exponentMask, pattern, rounds, ?_, ?_⟩
  · intro mode overflow
    rw [← format.magnitudeAt_exponentMask] at overflow
    apply le_antisymm rounds.le
    rcases mode with even | away
    · have nearest : format.RoundsToEven (leadingMagnitude significand exponent) pattern := by rwa [even] at rounds
      exact nearest.le_of_ge le_rfl overflow
    · have nearest : format.RoundsAway (leadingMagnitude significand exponent) pattern := by rwa [away] at rounds
      exact nearest.le_of_ge le_rfl overflow
  · rw [normalized_int, packed, format.signed_eq_lor negative below]
    simp only [ne_eq, Nat.cast_eq_zero]

/-- A subnormal value with a very small exponent is not rounded to zero, as the mask of its lost bits is too wide. -/
theorem normalized_half_shiftTooLong :
    Value.normalized Format.half (int 1) (int (-2 ^ 70)) (int 0) (int 0) = .error .shiftTooLong := by
  have result := normalized_int Format.half 1 (-2 ^ 70) 0 false
  have lost : Format.half.lostBits 1 (-2 ^ 70) = 2 ^ 70 - 24 := by decide
  have wide : (maxShift : Int) < 2 ^ 70 - 24 - 1 := by decide
  rw [lost, if_pos ⟨by decide, wide⟩] at result
  exact result

end Value

end HalfPrecision
