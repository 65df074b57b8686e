import HalfPrecision.Proofs.Format.Normalized
import HalfPrecision.Proofs.Format.Ordered

/-!
This file compares the magnitudes of two formats. A wider format holds all magnitudes of a narrow one, and with one more
fraction bit also the midpoints between them. So rounding to a wider format first changes a later rounding only by
moving a value onto a midpoint.
-/

namespace HalfPrecision.Format

/-- A format holds each short significand from the place of its lowest bit on. -/
theorem exists_magnitudeAt_eq (format : Format) {significand : Nat} {scale : Int}
    (short : significand < 2 * format.significandOne) (coarse : 1 - format.bias - format.fractionWidth ≤ scale) :
    ∃ pattern, format.magnitudeAt pattern = significand * (2 : Rat) ^ scale := by
  rcases Nat.eq_zero_or_pos significand with rfl | positive
  · exact ⟨0, by simp [magnitudeAt_zero]⟩
  have length : bitLength significand ≤ format.fractionWidth + 1 := by
    rwa [bitLength_le_iff, pow_succ', ← significandOne_eq]
  have split := format.splits_shiftedDown positive (scale + bitLength significand - 1)
  have gains : format.lostBits significand (scale + bitLength significand - 1) ≤ 0 := by
    rw [lostBits_eq]
    unfold placeOf
    omega
  rw [lostFraction_of_nonpos significand gains] at split
  refine ⟨_, split.exact.trans ?_⟩
  rw [leadingMagnitude]
  congr 2
  ring

/-- One format has at least the fraction bits and the bias of another. -/
structure Wider (wide narrow : Format) : Prop where
  fractions : narrow.fractionWidth ≤ wide.fractionWidth
  biases : narrow.bias ≤ wide.bias

namespace Wider

variable {wide narrow : Format}

theorem refl (format : Format) : format.Wider format := ⟨le_rfl, le_rfl⟩

theorem significandOne_le (wider : wide.Wider narrow) : narrow.significandOne ≤ wide.significandOne := by
  rw [significandOne_eq, significandOne_eq]
  exact Nat.pow_le_pow_right (by decide) wider.fractions

/-- A narrow format overflows no later than a wider one. -/
theorem overflow_le (wider : wide.Wider narrow) :
    narrow.magnitudeAt narrow.exponentMask ≤ wide.magnitudeAt wide.exponentMask := by
  rw [magnitudeAt_exponentMask, magnitudeAt_exponentMask]
  exact pow_le_pow_right₀ (by norm_num) (Nat.succ_le_succ wider.biases)

theorem le_exponentMask (wider : wide.Wider narrow) {image : Nat}
    (reached : wide.magnitudeAt image ≤ narrow.magnitudeAt narrow.exponentMask) : image ≤ wide.exponentMask :=
  wide.magnitudeAt_strictMono.le_iff_le.mp (reached.trans wider.overflow_le)

/-- A wider format holds each magnitude of a narrow one. -/
theorem holds (wider : wide.Wider narrow) {pattern : Nat} (inside : pattern ≤ narrow.exponentMask) :
    wide.Holds (narrow.magnitudeAt pattern) := by
  have reached := narrow.magnitudeAt_strictMono.monotone inside
  obtain ⟨place, significand, rfl, leading, short⟩ := narrow.exists_place pattern
  have ones := wider.significandOne_le
  have fractions := wider.fractions
  have biases := wider.biases
  rw [narrow.magnitudeAt_place leading short.le] at reached ⊢
  obtain ⟨image, same⟩ := wide.exists_magnitudeAt_eq (show significand < 2 * wide.significandOne by omega)
    (show 1 - wide.bias - wide.fractionWidth ≤ (place + 1 - narrow.bias - narrow.fractionWidth : Int) by omega)
  exact ⟨image, wider.le_exponentMask (same.trans_le reached), same⟩

/-- A finite magnitude of a narrow format is finite in a wider one. -/
theorem exists_finite (wider : wide.Wider narrow) {pattern : Nat} (finite : pattern < narrow.exponentMask) :
    ∃ image < wide.exponentMask, wide.magnitudeAt image = narrow.magnitudeAt pattern := by
  obtain ⟨image, inside, same⟩ := wider.holds finite.le
  refine ⟨image, lt_of_le_of_ne inside ?_, same⟩
  rintro rfl
  have below := narrow.magnitudeAt_strictMono finite
  have overflow := wider.overflow_le
  linarith

/-- A wider format with more fraction bits holds each midpoint of a narrow one. -/
theorem holds_midpoint (wider : wide.Wider narrow) (finer : narrow.fractionWidth < wide.fractionWidth) {pattern : Nat}
    (inside : pattern < narrow.exponentMask) : wide.Holds (narrow.midpoint pattern) := by
  have next := narrow.magnitudeAt_strictMono.monotone (Nat.succ_le_of_lt inside)
  have reached := (narrow.midpoint_lt_magnitudeAt pattern).le.trans next
  obtain ⟨place, significand, rfl, leading, short⟩ := narrow.exists_place pattern
  have ones : 2 * narrow.significandOne ≤ wide.significandOne := by
    rw [significandOne_eq, significandOne_eq, ← pow_succ']
    exact Nat.pow_le_pow_right (by decide) finer
  have biases := wider.biases
  obtain ⟨image, same⟩ := wide.exists_magnitudeAt_eq (show 2 * significand + 1 < 2 * wide.significandOne by omega)
    (show 1 - wide.bias - wide.fractionWidth ≤ (place - narrow.bias - narrow.fractionWidth : Int) by omega)
  have middle : wide.magnitudeAt image = narrow.midpoint (significand + place * narrow.significandOne) := by
    have halved : narrow.spacing place = 2 * (2 : Rat) ^ (place - narrow.bias - narrow.fractionWidth : Int) := by
      rw [← zpow_one_add₀ (by norm_num), spacing]
      congr 1
      ring
    rw [same, midpoint, narrow.magnitudeAt_place leading short.le, narrow.magnitudeAt_place_succ leading short, halved]
    push_cast
    ring
  exact ⟨image, wider.le_exponentMask (middle.trans_le reached), middle⟩

end Wider

/-- A value is rounded to a wide format, and the result to a narrow one. -/
structure RoundsTwice (wide narrow : Format) (value : Rat) (middle final : Nat) : Prop where
  wider : wide.Wider narrow
  finer : narrow.fractionWidth < wide.fractionWidth
  first : wide.RoundsToEven value middle
  second : narrow.RoundsToEven (wide.magnitudeAt middle) final

namespace RoundsTwice

variable {wide narrow : Format} {value : Rat} {middle final direct bound : Nat}

/-- A value of the narrow format passes both roundings unchanged. -/
theorem eq_of_eq (twice : RoundsTwice wide narrow value middle final) (inside : bound ≤ narrow.exponentMask)
    (same : value = narrow.magnitudeAt bound) : final = bound := by
  subst same
  exact twice.second.eq_of_eq inside (twice.first.magnitudeAt_eq (twice.wider.holds inside))

/-- Neither rounding passes a pattern of the narrow format that the value does not pass. -/
theorem le_of_le (twice : RoundsTwice wide narrow value middle final) (inside : bound ≤ narrow.exponentMask)
    (reached : value ≤ narrow.magnitudeAt bound) : final ≤ bound :=
  twice.second.le_of_le inside (twice.first.magnitudeAt_le (twice.wider.holds inside) reached)

theorem le_of_ge (twice : RoundsTwice wide narrow value middle final) (inside : bound ≤ narrow.exponentMask)
    (reached : narrow.magnitudeAt bound ≤ value) : bound ≤ final :=
  twice.second.le_of_ge inside (twice.first.le_magnitudeAt (twice.wider.holds inside) reached)

/-- The last pattern is one of the two neighbours that bracket the value. -/
theorem bracket (twice : RoundsTwice wide narrow value middle final) (nonnegative : 0 ≤ value) :
    ∃ lower < narrow.exponentMask, narrow.magnitudeAt lower ≤ value ∧
      (lower + 1 = narrow.exponentMask ∨ value < narrow.magnitudeAt (lower + 1)) ∧
      (final = lower ∨ final = lower + 1) := by
  obtain ⟨lower, finite, reached, missed⟩ := narrow.exists_bracket nonnegative
  have least := twice.le_of_ge finite.le reached
  have most : final ≤ lower + 1 := by
    rcases missed with infinite | below
    · exact twice.second.1.trans_eq infinite.symm
    · exact twice.le_of_le finite below.le
  exact ⟨lower, finite, reached, missed, by omega⟩

/-- Two roundings give the same as one if the first does not end on a midpoint. -/
theorem eq_of_not_midpoint (twice : RoundsTwice wide narrow value middle final)
    (once : narrow.RoundsToEven value direct)
    (apart : ∀ lower < narrow.exponentMask, wide.magnitudeAt middle ≠ narrow.midpoint lower) : final = direct := by
  apply le_antisymm
  · rcases eq_or_lt_of_le once.1 with infinite | finite
    · exact infinite ▸ twice.second.1
    have below : value ≤ narrow.midpoint direct := by
      by_contra above
      exact Nat.not_succ_le_self _ (once.succ_le_of_midpoint_lt finite (not_le.mp above))
    have moved := twice.first.magnitudeAt_le (twice.wider.holds_midpoint twice.finer finite) below
    exact twice.second.le_of_lt_midpoint finite (lt_of_le_of_ne moved (apart direct finite))
  · obtain zero | ⟨lower, rfl⟩ : direct = 0 ∨ ∃ lower, direct = lower + 1 := by
      cases direct <;> simp
    · omega
    have finite : lower < narrow.exponentMask := once.1
    have above : narrow.midpoint lower ≤ value := by
      by_contra below
      exact Nat.not_succ_le_self _ (once.le_of_lt_midpoint finite (not_le.mp below))
    have moved := twice.first.le_magnitudeAt (twice.wider.holds_midpoint twice.finer finite) above
    exact twice.second.succ_le_of_midpoint_lt finite (lt_of_le_of_ne moved (apart lower finite).symm)

/-- Two roundings give the same as one if the first is exact. -/
theorem eq_of_exact (twice : RoundsTwice wide narrow value middle final) (once : narrow.RoundsToEven value direct)
    (exact : wide.magnitudeAt middle = value) : final = direct := by
  have second := twice.second
  rw [exact] at second
  exact second.unique once

end RoundsTwice

end HalfPrecision.Format
