import HalfPrecision.Proofs.Format.Layout

/-!
This file defines the magnitudes that patterns denote and shows that they grow with the patterns. The patterns past
infinity continue the sequence, so that a rounded pattern can be described before it is cut off.
-/

namespace HalfPrecision.Format

variable (format : Format)

/-- The magnitude of a pattern without sign. The pattern of infinity gets the power of two where values overflow. -/
def magnitudeAt (pattern : Nat) : Rat :=
  let field := pattern / format.significandOne
  let fraction := pattern % format.significandOne
  if field = 0 then fraction * (2 : Rat) ^ (1 - format.bias - format.fractionWidth : Int)
  else (format.significandOne + fraction : Nat) * (2 : Rat) ^ (field - format.bias - format.fractionWidth : Int)

/-- The value of a finite pattern with its sign. -/
def valueAt (pattern : Nat) : Rat :=
  if pattern / format.signBit = 1 then -format.magnitudeAt (pattern % format.signBit)
  else format.magnitudeAt (pattern % format.signBit)

/-- The distance of neighbouring magnitudes with the exponent field `place + 1`. -/
def spacing (place : Nat) : Rat := (2 : Rat) ^ (place + 1 - format.bias - format.fractionWidth : Int)

theorem spacing_pos (place : Nat) : 0 < format.spacing place := by
  unfold spacing
  positivity

theorem spacing_succ (place : Nat) : format.spacing (place + 1) = 2 * format.spacing place := by
  unfold spacing
  rw [← zpow_one_add₀ (by norm_num)]
  congr 1
  push_cast
  ring

/-- The significands of one exponent field are evenly spaced. The one that is a bit too long is the first significand
of the next field. -/
theorem magnitudeAt_place {place significand : Nat} (leading : place = 0 ∨ format.significandOne ≤ significand)
    (short : significand ≤ 2 * format.significandOne) :
    format.magnitudeAt (significand + place * format.significandOne) = significand * format.spacing place := by
  have positive := format.significandOne_pos
  by_cases subnormal : significand < format.significandOne
  · have lowest : place = 0 := by omega
    rw [lowest, Nat.zero_mul, Nat.add_zero, magnitudeAt, Nat.div_eq_of_lt subnormal, Nat.mod_eq_of_lt subnormal,
      if_pos rfl, spacing]
    push_cast
    ring_nf
  by_cases full : significand = 2 * format.significandOne
  · have pattern : significand + place * format.significandOne = (place + 2) * format.significandOne := by
      rw [full]
      ring
    rw [pattern, magnitudeAt, Nat.mul_div_cancel _ positive, Nat.mul_mod_left, if_neg (by omega), full]
    push_cast
    rw [mul_comm (2 : Rat), mul_assoc, ← spacing_succ, spacing]
    push_cast
    ring_nf
  · obtain ⟨fraction, rfl⟩ := Nat.exists_eq_add_of_le (Nat.le_of_not_gt subnormal)
    have inside : fraction < format.significandOne := by omega
    have pattern : format.significandOne + fraction + place * format.significandOne =
        format.significandOne * (place + 1) + fraction := by ring
    rw [pattern, magnitudeAt, Nat.mul_add_div positive, Nat.mul_add_mod, Nat.div_eq_of_lt inside,
      Nat.mod_eq_of_lt inside, if_neg (by omega), spacing]
    push_cast
    ring_nf

/-- Each pattern is a significand in one place. -/
theorem exists_place (pattern : Nat) :
    ∃ place significand, pattern = significand + place * format.significandOne ∧
      (place = 0 ∨ format.significandOne ≤ significand) ∧ significand < 2 * format.significandOne := by
  have inside := Nat.mod_lt pattern format.significandOne_pos
  have split := Nat.div_add_mod pattern format.significandOne
  cases field : pattern / format.significandOne with
  | zero =>
      rw [field, Nat.mul_zero, Nat.zero_add] at split
      exact ⟨0, pattern, by simp, Or.inl rfl, by omega⟩
  | succ place =>
      refine ⟨place, format.significandOne + pattern % format.significandOne, ?_,
        Or.inr (Nat.le_add_right _ _), by omega⟩
      rw [field] at split
      linarith

theorem magnitudeAt_place_succ {place significand : Nat} (leading : place = 0 ∨ format.significandOne ≤ significand)
    (short : significand < 2 * format.significandOne) :
    format.magnitudeAt (significand + place * format.significandOne + 1) =
      (significand + 1) * format.spacing place := by
  have next : format.magnitudeAt (significand + 1 + place * format.significandOne) =
      (significand + 1 : Nat) * format.spacing place := format.magnitudeAt_place (by omega) (by omega)
  rw [show significand + place * format.significandOne + 1 = significand + 1 + place * format.significandOne by ring,
    next]
  push_cast
  rfl

/-- A larger pattern denotes a larger magnitude. -/
theorem magnitudeAt_strictMono : StrictMono format.magnitudeAt := by
  apply strictMono_nat_of_lt_succ
  intro pattern
  obtain ⟨place, significand, rfl, leading, short⟩ := format.exists_place pattern
  rw [magnitudeAt_place format leading short.le, magnitudeAt_place_succ format leading short]
  exact mul_lt_mul_of_pos_right (by linarith) (format.spacing_pos place)

theorem magnitudeAt_zero : format.magnitudeAt 0 = 0 := by
  simp [magnitudeAt, Nat.zero_div]

theorem magnitudeAt_nonneg (pattern : Nat) : 0 ≤ format.magnitudeAt pattern := by
  rw [← format.magnitudeAt_zero]
  exact format.magnitudeAt_strictMono.monotone (Nat.zero_le pattern)

/-- Values overflow at the power of two after the largest exponent. -/
theorem magnitudeAt_exponentMask : format.magnitudeAt format.exponentMask = (2 : Rat) ^ (format.bias + 1) := by
  have positive := format.significandOne_pos
  rw [magnitudeAt, exponentMask_eq, Nat.mul_div_cancel _ positive, Nat.mul_mod_left, if_neg (by omega),
    significandOne_eq]
  push_cast
  rw [add_zero, ← zpow_natCast, ← zpow_natCast, ← zpow_add₀ (by norm_num)]
  congr 1
  push_cast
  ring

theorem abs_valueAt (pattern : Nat) : |format.valueAt pattern| = format.magnitudeAt (pattern % format.signBit) := by
  have nonnegative := format.magnitudeAt_nonneg (pattern % format.signBit)
  unfold valueAt
  split
  · rw [abs_neg, abs_of_nonneg nonnegative]
  · exact abs_of_nonneg nonnegative

end HalfPrecision.Format
