import HalfPrecision.Proofs.Format.Magnitude
import Mathlib.Order.WithBotTop

/-!
This file puts the values of a format on a line with both infinities at its ends. The place of a value is the magnitude
of its pattern with its sign, so that places and values have the same order, and both zeros stand in the middle.
-/

namespace HalfPrecision

/-- A number with a sign. There is one zero. -/
def withSign (negative : Bool) (number : Nat) : Int :=
  if negative then -(number : Int) else number

@[simp] theorem withSign_false (number : Nat) : withSign false number = number := rfl

@[simp] theorem withSign_true (number : Nat) : withSign true number = -(number : Int) := rfl

theorem natAbs_withSign (negative : Bool) (number : Nat) : (withSign negative number).natAbs = number := by
  cases negative <;> simp

namespace Format

variable (format : Format)

/-- What a pattern that is not a NaN denotes, given by its sign and its magnitude. -/
def extended (negative : Bool) (pattern : Nat) : WithBotTop Rat :=
  if pattern = format.exponentMask then if negative then ⊥ else ⊤
  else ((if negative then -format.magnitudeAt pattern else format.magnitudeAt pattern : Rat) : WithBotTop Rat)

/-- The value at a place, which is a magnitude with a sign. -/
def extendedAt (place : Int) : WithBotTop Rat :=
  format.extended (decide (place < 0)) place.natAbs

/-- The places from one infinity to the other. -/
def line : Set Int := Set.Icc (-(format.exponentMask : Int)) format.exponentMask

theorem withSign_mem_line (negative : Bool) {pattern : Nat} (inside : pattern ≤ format.exponentMask) :
    withSign negative pattern ∈ format.line := by
  cases negative <;> simp only [withSign_false, withSign_true] <;> constructor <;> omega

theorem exponentMask_pos : 0 < format.exponentMask :=
  format.significandOne_pos.trans_le format.significandOne_le_exponentMask

/-- The sign of a zero does not change its value. -/
theorem extended_eq_extendedAt (negative : Bool) (pattern : Nat) :
    format.extended negative pattern = format.extendedAt (withSign negative pattern) := by
  have positive := format.exponentMask_pos
  unfold extendedAt
  rw [natAbs_withSign]
  rcases Nat.eq_zero_or_pos pattern with rfl | nonzero
  · cases negative <;> simp [extended, positive.ne, magnitudeAt_zero]
  · have sign : withSign negative pattern < 0 ↔ negative = true := by
      cases negative with
      | false => simp [not_lt.mpr (Int.natCast_nonneg pattern)]
      | true => simpa using nonzero
    simp only [sign, Bool.decide_eq_true]

/-- The magnitude of a pattern with the sign of its place. -/
def magnitudeOn (place : Int) : Rat :=
  if place < 0 then -format.magnitudeAt place.natAbs else format.magnitudeAt place.natAbs

theorem magnitudeOn_strictMono : StrictMono format.magnitudeOn := by
  intro lower upper less
  have least := format.magnitudeAt_nonneg lower.natAbs
  have most := format.magnitudeAt_nonneg upper.natAbs
  unfold magnitudeOn
  split_ifs with below above above
  · have farther := format.magnitudeAt_strictMono (show upper.natAbs < lower.natAbs by omega)
    linarith
  · have nonzero := format.magnitudeAt_strictMono (show 0 < lower.natAbs by omega)
    rw [magnitudeAt_zero] at nonzero
    linarith
  · omega
  · exact format.magnitudeAt_strictMono (by omega)

theorem extendedAt_of_natAbs_lt {place : Int} (finite : place.natAbs < format.exponentMask) :
    format.extendedAt place = format.magnitudeOn place := by
  simp [extendedAt, extended, magnitudeOn, finite.ne]

theorem extendedAt_exponentMask : format.extendedAt format.exponentMask = ⊤ := by
  simp [extendedAt, extended]

theorem extendedAt_neg_exponentMask : format.extendedAt (-(format.exponentMask : Int)) = ⊥ := by
  have positive := format.exponentMask_pos
  simp [extendedAt, extended, positive]

/-- Values are ordered as their places are. -/
theorem extendedAt_strictMonoOn : StrictMonoOn format.extendedAt format.line := by
  rintro lower ⟨least, -⟩ upper ⟨-, most⟩ less
  rcases least.eq_or_lt with rfl | above
  · rw [extendedAt_neg_exponentMask, bot_lt_iff_ne_bot]
    rcases most.eq_or_lt with rfl | below
    · simp [extendedAt_exponentMask]
    · simp [format.extendedAt_of_natAbs_lt (show upper.natAbs < format.exponentMask by omega)]
  · rw [format.extendedAt_of_natAbs_lt (show lower.natAbs < format.exponentMask by omega)]
    rcases most.eq_or_lt with rfl | below
    · simp [extendedAt_exponentMask, lt_top_iff_ne_top]
    · rw [format.extendedAt_of_natAbs_lt (show upper.natAbs < format.exponentMask by omega), WithBotTop.coe_lt_coe]
      exact format.magnitudeOn_strictMono less

/-- Patterns of equal magnitudes in two formats denote the same values. -/
theorem extended_congr {first second : Format} (negative : Bool) {pattern other : Nat}
    (inside : pattern < first.exponentMask) (otherInside : other < second.exponentMask)
    (same : first.magnitudeAt pattern = second.magnitudeAt other) :
    first.extended negative pattern = second.extended negative other := by
  rw [extended, extended, if_neg inside.ne, if_neg otherInside.ne, same]

end Format

end HalfPrecision
