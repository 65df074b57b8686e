import HalfPrecision.Format.Nearest
import HalfPrecision.Proofs.Format.Rounded

/-!
This file shows that rounding an exact rational to a format gives its nearest pattern. The place of the value is found
from the bit lengths of its numerator and its denominator.
-/

namespace HalfPrecision

private theorem log2_bounds {number : Nat} (positive : 0 < number) :
    (2 : Rat) ^ (number.log2 : Int) ≤ number ∧ (number : Rat) < (2 : Rat) ^ (number.log2 + 1 : Int) := by
  have lower : 2 ^ number.log2 ≤ number := Nat.log2_self_le positive.ne'
  have upper : number < 2 ^ (number.log2 + 1) := Nat.lt_log2_self
  constructor
  · rw [zpow_natCast]
    exact_mod_cast lower
  · rw [show (number.log2 + 1 : Int) = (number.log2 + 1 : Nat) by push_cast; rfl, zpow_natCast]
    exact_mod_cast upper

/-- A positive value lies between two neighbouring powers of two. -/
theorem floorLog2_spec {value : Rat} (positive : 0 < value) :
    (2 : Rat) ^ floorLog2 value ≤ value ∧ value < (2 : Rat) ^ (floorLog2 value + 1) := by
  obtain ⟨numeratorLow, numeratorHigh⟩ := log2_bounds (Int.natAbs_pos.mpr (Rat.num_pos.mpr positive).ne')
  obtain ⟨denominatorLow, denominatorHigh⟩ := log2_bounds value.den_pos
  have quotient : value = (value.num.natAbs : Rat) / value.den := by
    rw [Nat.cast_natAbs, abs_of_pos (Rat.num_pos.mpr positive), Rat.num_div_den]
  have numerator : (0 : Rat) < value.num.natAbs := by exact_mod_cast Int.natAbs_pos.mpr (Rat.num_pos.mpr positive).ne'
  have denominator : (0 : Rat) < value.den := by exact_mod_cast value.den_pos
  unfold floorLog2
  generalize value.num.natAbs.log2 = high at *
  generalize value.den.log2 = low at *
  have above : (2 : Rat) ^ (high - low - 1 : Int) < value := by
    calc (2 : Rat) ^ (high - low - 1 : Int)
        = (2 : Rat) ^ (high : Int) / (2 : Rat) ^ (low + 1 : Int) := by
          rw [← zpow_sub₀ (by norm_num)]
          congr 1
          ring
      _ ≤ value.num.natAbs / (2 : Rat) ^ (low + 1 : Int) := by gcongr
      _ < value.num.natAbs / value.den := by gcongr
      _ = value := quotient.symm
  have below : value < (2 : Rat) ^ (high - low + 1 : Int) := by
    calc value = value.num.natAbs / value.den := quotient
      _ < (2 : Rat) ^ (high + 1 : Int) / value.den := by gcongr
      _ ≤ (2 : Rat) ^ (high + 1 : Int) / (2 : Rat) ^ (low : Int) := by gcongr
      _ = (2 : Rat) ^ (high - low + 1 : Int) := by
          rw [← zpow_sub₀ (by norm_num)]
          congr 1
          ring
  dsimp only
  split_ifs with reached
  · exact ⟨reached, below⟩
  · exact ⟨above.le, by rw [sub_add_cancel]; exact not_le.mp reached⟩

/-- A whole part is raised if the fraction above it is more than one half, or one half and the whole part is odd. -/
theorem roundHalfEven_add {quotient : Nat} {fraction : Rat} (nonnegative : 0 ≤ fraction) (proper : fraction < 1) :
    roundHalfEven (quotient + fraction) =
      (if 1 / 2 < fraction ∨ fraction = 1 / 2 ∧ quotient % 2 = 1 then quotient + 1 else quotient : Nat) := by
  have whole : ((quotient : Rat) + fraction).floor = quotient := by
    change ⌊(quotient : Rat) + fraction⌋ = quotient
    rw [Int.floor_natCast_add, Int.floor_eq_zero_iff.mpr ⟨nonnegative, proper⟩, add_zero]
  have rest : (quotient : Rat) + fraction - ((quotient : Int) : Rat) = fraction := by
    push_cast
    ring
  have parity : ((quotient : Int) % 2 = 0) = ¬quotient % 2 = 1 := by
    apply propext
    omega
  unfold roundHalfEven
  simp only [whole, rest, parity]
  rcases lt_trichotomy fraction (1 / 2) with less | middle | more
  · rw [if_pos less, if_neg]
    rintro (more | ⟨middle, -⟩) <;> linarith
  · subst middle
    by_cases odd : quotient % 2 = 1 <;> simp [odd]
  · rw [if_neg (by linarith), if_pos more, if_pos (Or.inl more)]
    push_cast
    rfl

namespace Format

variable (format : Format)

/-- A positive value splits at the last bit of the place of its leading power of two. -/
theorem exists_splits {value : Rat} (positive : 0 < value) :
    ∃ (quotient : Nat) (fraction : Rat),
      value * (2 : Rat) ^ (format.fractionWidth - max (floorLog2 value) (1 - format.bias) : Int) = quotient + fraction ∧
      format.Splits value (max (floorLog2 value) (1 - format.bias) - (1 - format.bias) : Int).toNat
        quotient fraction := by
  obtain ⟨leading, short⟩ := floorLog2_spec positive
  generalize chosen : max (floorLog2 value) (1 - format.bias : Int) = exponent
  generalize product : value * (2 : Rat) ^ (format.fractionWidth - exponent : Int) = scaled
  have nonnegative : 0 ≤ scaled := by
    rw [← product]
    positivity
  have spaced : format.spacing (exponent - (1 - format.bias)).toNat =
      (2 : Rat) ^ (exponent - format.fractionWidth : Int) := by
    unfold spacing
    congr 1
    omega
  have reached : value < (2 : Rat) ^ (exponent + 1) :=
    short.trans_le (zpow_le_zpow_right₀ (by norm_num) (by omega))
  refine ⟨⌊scaled⌋₊, scaled - ⌊scaled⌋₊, by ring, ?_, ?_, ?_, ?_, ?_⟩
  · rcases le_total (floorLog2 value) (1 - format.bias) with small | large
    · left
      omega
    · right
      rw [significandOne_eq]
      apply Nat.le_floor
      calc ((2 ^ format.fractionWidth : Nat) : Rat)
          = (2 : Rat) ^ floorLog2 value * (2 : Rat) ^ (format.fractionWidth - exponent : Int) := by
            rw [← chosen, max_eq_left large, ← zpow_add₀ (by norm_num), add_sub_cancel, zpow_natCast]
            push_cast
            rfl
        _ ≤ value * (2 : Rat) ^ (format.fractionWidth - exponent : Int) := by gcongr
        _ = scaled := product
  · rw [Nat.floor_lt nonnegative, significandOne_eq]
    calc scaled
        = value * (2 : Rat) ^ (format.fractionWidth - exponent : Int) := product.symm
      _ < (2 : Rat) ^ (exponent + 1) * (2 : Rat) ^ (format.fractionWidth - exponent : Int) := by gcongr
      _ = ((2 * 2 ^ format.fractionWidth : Nat) : Rat) := by
          rw [← zpow_add₀ (by norm_num), show exponent + 1 + (format.fractionWidth - exponent) =
            (format.fractionWidth + 1 : Nat) by push_cast; ring, zpow_natCast, pow_succ']
          push_cast
          rfl
  · exact sub_nonneg.mpr (Nat.floor_le nonnegative)
  · linarith [Nat.lt_floor_add_one scaled]
  · rw [spaced, add_sub_cancel, ← product, mul_assoc, ← zpow_add₀ (by norm_num)]
    simp

/-- Rounding an exact magnitude gives the nearest pattern, and the even one of two that are equally near. -/
theorem nearest_roundsToEven {value : Rat} (nonnegative : 0 ≤ value) :
    format.RoundsToEven value (format.nearest value) := by
  rcases nonnegative.eq_or_lt with zero | positive
  · subst zero
    have rounded : format.RoundsToEven 0 (min (0 + 0 * format.significandOne) format.exponentMask) :=
      Splits.zero.roundsToEven (fun raised => by norm_num at raised) fun _ => rfl
    simpa [nearest] using rounded
  · obtain ⟨quotient, fraction, scaled, split⟩ := format.exists_splits positive
    unfold nearest
    rw [if_neg positive.ne']
    dsimp only
    rw [scaled, roundHalfEven_add split.nonnegative split.proper, Int.toNat_natCast]
    exact split.roundsToEven (fun choice => if_pos choice) fun choice => if_neg choice

end Format

end HalfPrecision
