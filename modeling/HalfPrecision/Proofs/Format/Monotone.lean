import HalfPrecision.Proofs.Format.Line
import HalfPrecision.Proofs.Format.Nearest
import HalfPrecision.Proofs.Format.Wider

/-!
This file extends nearest rounding to negative values and to the infinities, as a monotone map onto the line of a
format. Infinities stay in place, so a value that overflows in one format is infinite in each narrower one.
-/

namespace HalfPrecision.Format

variable (format : Format)

theorem nearest_mono {lower upper : Rat} (nonnegative : 0 ≤ lower) (ordered : lower ≤ upper) :
    format.nearest lower ≤ format.nearest upper :=
  (format.nearest_roundsToEven nonnegative).mono (format.nearest_roundsToEven (nonnegative.trans ordered)) ordered

/-- The magnitude of a pattern is kept. -/
theorem nearest_magnitudeAt {pattern : Nat} (inside : pattern ≤ format.exponentMask) :
    format.nearest (format.magnitudeAt pattern) = pattern :=
  (format.nearest_roundsToEven (format.magnitudeAt_nonneg pattern)).eq_of_eq inside rfl

theorem nearest_of_overflow {value : Rat} (reached : format.magnitudeAt format.exponentMask ≤ value) :
    format.nearest value = format.exponentMask := by
  have nearest := format.nearest_roundsToEven ((format.magnitudeAt_nonneg _).trans reached)
  exact le_antisymm nearest.1 (nearest.le_of_ge le_rfl reached)

/-- The place to which a value is rounded. -/
def place : WithBotTop Rat → Int
  | ⊥ => -(format.exponentMask : Int)
  | (value : Rat) => withSign (decide (value < 0)) (format.nearest |value|)
  | ⊤ => format.exponentMask

theorem place_bot : format.place ⊥ = -(format.exponentMask : Int) := rfl

theorem place_top : format.place ⊤ = format.exponentMask := rfl

theorem place_coe (value : Rat) :
    format.place (value : WithBotTop Rat) = withSign (decide (value < 0)) (format.nearest |value|) := rfl

theorem place_mem_line (value : WithBotTop Rat) : format.place value ∈ format.line := by
  induction value using WithBotTop.rec with
  | bot => exact format.withSign_mem_line true le_rfl
  | coe value => exact format.withSign_mem_line _ (format.nearest_roundsToEven (abs_nonneg value)).1
  | top => exact format.withSign_mem_line false le_rfl

theorem place_coe_mono {lower upper : Rat} (ordered : lower ≤ upper) : format.place lower ≤ format.place upper := by
  rw [place_coe, place_coe]
  rcases lt_or_ge lower 0 with negative | positive <;> rcases lt_or_ge upper 0 with above | above
  · have reversed := format.nearest_mono (abs_nonneg upper) (abs_le_abs_of_nonpos above.le ordered)
    simp only [negative, above, decide_true, withSign_true]
    omega
  · simp only [negative, above.not_gt, decide_true, decide_false, withSign_true, withSign_false]
    omega
  · exact absurd (positive.trans ordered) above.not_ge
  · have kept := format.nearest_mono (abs_nonneg lower) (abs_le_abs_of_nonneg positive ordered)
    simp only [positive.not_gt, above.not_gt, decide_false, withSign_false]
    omega

/-- Rounding keeps the order of all values. -/
theorem place_mono : Monotone format.place := by
  intro lower upper ordered
  have inside := format.place_mem_line
  induction lower using WithBotTop.rec with
  | bot => exact (inside upper).1
  | top => rw [top_le_iff.mp ordered]
  | coe lower =>
      induction upper using WithBotTop.rec with
      | bot => simp at ordered
      | top => exact (inside lower).2
      | coe upper => exact format.place_coe_mono (WithBotTop.coe_le_coe.mp ordered)

/-- The value to which a value is rounded. -/
def rounded (value : WithBotTop Rat) : WithBotTop Rat := format.extendedAt (format.place value)

theorem rounded_mono : Monotone format.rounded := by
  intro lower upper ordered
  exact format.extendedAt_strictMonoOn.monotoneOn (format.place_mem_line lower) (format.place_mem_line upper)
    (format.place_mono ordered)

/-- The values of a format are rounded to another one by their magnitudes. Both zeros are rounded to the same place. -/
theorem Wider.place_extended {wide narrow : Format} (wider : wide.Wider narrow) (negative : Bool) {pattern : Nat}
    (inside : pattern ≤ wide.exponentMask) :
    narrow.place (wide.extended negative pattern) = withSign negative (narrow.nearest (wide.magnitudeAt pattern)) := by
  rcases inside.eq_or_lt with infinite | finite
  · rw [infinite, narrow.nearest_of_overflow wider.overflow_le]
    cases negative <;> simp [extended, place_bot, place_top]
  rw [extended, if_neg finite.ne, place_coe]
  rcases Nat.eq_zero_or_pos pattern with zero | nonzero
  · have unmoved : narrow.nearest 0 = 0 := rfl
    cases negative <;> simp [zero, wide.magnitudeAt_zero, unmoved]
  · have positive := wide.magnitudeAt_strictMono nonzero
    rw [magnitudeAt_zero] at positive
    cases negative <;> simp [positive, positive.not_gt, abs_of_pos]

theorem Wider.rounded_extended {wide narrow : Format} (wider : wide.Wider narrow) (negative : Bool) {pattern : Nat}
    (inside : pattern ≤ wide.exponentMask) :
    narrow.rounded (wide.extended negative pattern) =
      narrow.extended negative (narrow.nearest (wide.magnitudeAt pattern)) := by
  rw [rounded, wider.place_extended negative inside, ← extended_eq_extendedAt]

/-- The values of a format are kept. -/
theorem rounded_extended (negative : Bool) {pattern : Nat} (inside : pattern ≤ format.exponentMask) :
    format.rounded (format.extended negative pattern) = format.extended negative pattern := by
  rw [(Wider.refl format).rounded_extended negative inside, format.nearest_magnitudeAt inside]

/-- A finite value is rounded to its nearest pattern, with the sign of the value. -/
theorem rounded_coe (value : Rat) :
    format.rounded value = format.extended (decide (value < 0)) (format.nearest |value|) := by
  rw [rounded, place_coe, ← extended_eq_extendedAt]

end HalfPrecision.Format
