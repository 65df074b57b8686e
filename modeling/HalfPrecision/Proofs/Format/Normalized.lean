import HalfPrecision.Format.Normalized
import HalfPrecision.Proofs.Format.Rounded

/-!
This file shows that packing a significand rounds its magnitude correctly in every mode. The subnormal path and the
normal path shift by different counts, but both cut the significand at the last bit of the same place.
-/

namespace HalfPrecision

/-- The magnitude of a significand whose leading bit has the weight `2 ^ exponent`. -/
def leadingMagnitude (significand : Nat) (exponent : Int) : Rat :=
  significand * (2 : Rat) ^ (exponent + 1 - bitLength significand)

namespace Format

variable (format : Format)

/-- The place of the values with a leading exponent. All subnormal values share the lowest place. -/
def placeOf (exponent : Int) : Nat := (exponent + format.bias - 1).toNat

theorem lostBits_eq (significand : Nat) (exponent : Int) :
    format.lostBits significand exponent =
      format.placeOf exponent + 1 - format.bias - format.fractionWidth - (exponent + 1 - bitLength significand) := by
  unfold lostBits excess placeOf
  rw [Int.natAbs_natCast]
  split_ifs <;> omega

/-- A significand of a subnormal value leaves the leading place empty. -/
theorem shiftedDown_lt_significandOne (significand : Nat) {exponent : Int} (small : exponent ≤ -(format.bias : Int)) :
    shiftedDown significand (format.lostBits significand exponent) < format.significandOne := by
  rw [significandOne_eq]
  apply shiftedDown_lt
  rw [lostBits_eq, placeOf]
  omega

/-- A significand of a normal value fills the leading place. -/
theorem significandOne_le_shiftedDown {significand : Nat} {exponent : Int} (positive : 0 < significand)
    (large : -(format.bias : Int) < exponent) :
    format.significandOne ≤ shiftedDown significand (format.lostBits significand exponent) := by
  rw [significandOne_eq]
  apply le_shiftedDown positive
  rw [lostBits_eq, placeOf]
  omega

/-- The shift of a significand splits its magnitude at the last bit of its place. -/
theorem splits_shiftedDown {significand : Nat} (positive : 0 < significand) (exponent : Int) :
    format.Splits (leadingMagnitude significand exponent) (format.placeOf exponent)
      (shiftedDown significand (format.lostBits significand exponent))
      (lostFraction significand (format.lostBits significand exponent)) where
  leading := by
    by_cases small : exponent ≤ -(format.bias : Int)
    · left
      unfold placeOf
      omega
    · exact Or.inr (format.significandOne_le_shiftedDown positive (not_le.mp small))
  short := by
    rw [significandOne_eq, ← pow_succ']
    apply shiftedDown_lt
    rw [lostBits_eq, placeOf]
    push_cast
    omega
  nonnegative := lostFraction_nonneg _ _
  proper := lostFraction_lt_one _ _
  value_eq := by
    rw [shiftedDown_add_lostFraction, mul_assoc, spacing, ← zpow_add₀ (by norm_num), leadingMagnitude, lostBits_eq]
    congr 2
    ring

/-- The exponent field of a rounded value is that of its pattern, whether it is subnormal, carries or neither. -/
theorem aligned_eq (mode : RoundingMode) (negative : Bool) {significand : Nat} (positive : 0 < significand)
    (exponent : Int) :
    ∃ (rounded : Nat) (leading : Int),
      ShiftRounds mode negative significand (format.lostBits significand exponent) rounded ∧
      format.aligned mode negative significand exponent = ((rounded : Int), leading) ∧
      leading + format.bias =
        ((rounded + format.placeOf exponent * format.significandOne) / format.significandOne : Nat) := by
  obtain ⟨rounded, shifted, result⟩ :=
    shiftRightAndRound_eq mode negative significand (format.lostBits significand exponent)
  have one := format.significandOne_pos
  have near := shifted.near
  unfold aligned
  rw [result]
  dsimp only
  by_cases small : exponent ≤ -(format.bias : Int)
  · have below := format.shiftedDown_lt_significandOne significand small
    have lowest : format.placeOf exponent = 0 := by
      unfold placeOf
      omega
    have field : rounded / format.significandOne ≤ 1 := by
      rw [← Nat.lt_succ_iff, Nat.div_lt_iff_lt_mul one]
      omega
    rw [if_pos small]
    refine ⟨rounded, _, shifted, rfl, ?_⟩
    rw [lowest, Nat.zero_mul, Nat.add_zero, ← Int.natCast_div]
    rcases Nat.le_one_iff_eq_zero_or_eq_one.mp field with empty | full
    · rw [empty]
      simp
    · rw [full]
      simp
  · have filled := format.significandOne_le_shiftedDown positive (not_le.mp small)
    have short := (format.splits_shiftedDown positive exponent).short
    have place : (format.placeOf exponent : Int) = exponent + format.bias - 1 := by
      unfold placeOf
      omega
    have length : bitLength (shiftedDown significand (format.lostBits significand exponent)) =
        format.fractionWidth + 1 := by
      rw [bitLength_eq_succ_iff, ← significandOne_eq, pow_succ', ← significandOne_eq]
      exact ⟨filled, short⟩
    have carry : format.fractionWidth + 1 < bitLength rounded ↔ rounded = 2 * format.significandOne := by
      rw [← not_le, bitLength_le_iff, pow_succ', ← significandOne_eq]
      omega
    rw [if_neg small]
    refine ⟨rounded, _, shifted, rfl, ?_⟩
    rw [length, Nat.add_mul_div_right _ _ one]
    by_cases full : rounded = 2 * format.significandOne
    · rw [if_pos (decide_eq_true (carry.mpr full)), full, Nat.mul_div_cancel _ one]
      omega
    · have field : rounded / format.significandOne = 1 := by
        apply Nat.div_eq_of_lt_le <;> omega
      rw [if_neg (by simpa using mt carry.mp full), field]
      omega

theorem overflowed_eq (mode : RoundingMode) (negative : Bool) :
    format.overflowed mode negative =
      format.signed negative (if mode.saturates negative then format.largestFinite else format.exponentMask) := by
  cases mode <;> cases negative <;> rfl

/-- A packed pattern is the rounded one, cut off where the format ends. -/
theorem normalized_eq (mode : RoundingMode) (negative : Bool) {significand : Nat} (positive : 0 < significand)
    (exponent : Int) :
    ∃ rounded : Nat, ShiftRounds mode negative significand (format.lostBits significand exponent) rounded ∧
      format.normalized mode negative significand exponent =
        format.signed negative
          (format.capped mode negative (rounded + format.placeOf exponent * format.significandOne)) := by
  obtain ⟨rounded, leading, shifted, result, field⟩ := format.aligned_eq mode negative positive exponent
  refine ⟨rounded, shifted, ?_⟩
  have one := format.significandOne_pos
  have nonzero : ¬(significand : Int) = 0 := by omega
  have overflows : (format.bias : Int) < leading ↔
      format.exponentMask ≤ rounded + format.placeOf exponent * format.significandOne := by
    rw [exponentMask_eq, ← Nat.le_div_iff_mul_le one]
    omega
  unfold normalized
  rw [if_neg nonzero, result]
  dsimp only
  by_cases infinite : (format.bias : Int) < leading
  · rw [if_pos infinite, overflowed_eq, capped, if_pos (overflows.mp infinite)]
  · rw [if_neg infinite, capped, if_neg (mt overflows.mpr infinite), field, Int.toNat_natCast, lowBits_natCast,
      ← significandOne_eq, ← Nat.add_mul_mod_self_right rounded (format.placeOf exponent), Nat.mul_comm (_ / _),
      Nat.div_add_mod]

/-- Packing rounds the magnitude of its significand correctly in each mode, and puts the sign in front. -/
theorem exists_normalized_rounds (mode : RoundingMode) (negative : Bool) (significand : Nat) (exponent : Int) :
    ∃ pattern, format.Rounds mode negative (leadingMagnitude significand exponent) pattern ∧
      format.normalized mode negative significand exponent = format.signed negative pattern := by
  rcases Nat.eq_zero_or_pos significand with rfl | positive
  · have finite : ¬format.exponentMask ≤ 0 := by
      have inside := format.significandOne_le_exponentMask
      have one := format.significandOne_pos
      omega
    have zero := (Splits.zero : format.Splits 0 0 0 0).rounds mode negative
      (fun raised => absurd raised (mode.not_raises_zero negative _)) fun _ => rfl
    rw [Nat.zero_mul, Nat.add_zero, capped, if_neg finite] at zero
    refine ⟨0, by simpa [leadingMagnitude] using zero, ?_⟩
    simp [normalized]
  · obtain ⟨rounded, shifted, result⟩ := format.normalized_eq mode negative positive exponent
    exact ⟨_, (format.splits_shiftedDown positive exponent).rounds mode negative shifted.raised shifted.kept, result⟩

end Format

end HalfPrecision
