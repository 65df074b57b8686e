import HalfPrecision.Proofs.Format.Magnitude
import HalfPrecision.Proofs.Rounding.Shift

/-!
This file defines which pattern a magnitude is rounded to in each mode, by order and distance alone. A rounded
magnitude is then found from its two neighbours, and cut off at infinity.
-/

namespace HalfPrecision

namespace Format

variable (format : Format)

/-- The greatest finite pattern whose magnitude is at most a value. -/
def RoundsInward (value : Rat) (pattern : Nat) : Prop :=
  IsGreatest {candidate | candidate ≤ format.largestFinite ∧ format.magnitudeAt candidate ≤ value} pattern

/-- The least pattern whose magnitude is at least a value, or infinity if there is none. -/
def RoundsOutward (value : Rat) (pattern : Nat) : Prop :=
  IsLeast {candidate | candidate ≤ format.exponentMask ∧
    (value ≤ format.magnitudeAt candidate ∨ candidate = format.exponentMask)} pattern

/-- The pattern nearest to a value. Of two that are equally near, it is the one that `prefers` puts first. -/
def RoundsNearest (prefers : Nat → Nat → Prop) (value : Rat) (pattern : Nat) : Prop :=
  pattern ≤ format.exponentMask ∧ ∀ other ≤ format.exponentMask, other ≠ pattern →
    |value - format.magnitudeAt pattern| < |value - format.magnitudeAt other| ∨
      |value - format.magnitudeAt pattern| = |value - format.magnitudeAt other| ∧ prefers pattern other

/-- The pattern nearest to a value, and the even one of two that are equally near. -/
def RoundsToEven (value : Rat) (pattern : Nat) : Prop :=
  format.RoundsNearest (fun pattern _ => pattern % 2 = 0) value pattern

/-- The pattern nearest to a value, and the larger one of two that are equally near. -/
def RoundsAway (value : Rat) (pattern : Nat) : Prop :=
  format.RoundsNearest (fun pattern other => other < pattern) value pattern

/-- The greatest pattern up to infinity whose magnitude is at most a value. -/
def Truncates (value : Rat) (pattern : Nat) : Prop :=
  IsGreatest {candidate | candidate ≤ format.exponentMask ∧ format.magnitudeAt candidate ≤ value} pattern

/-- The pattern without sign that a mode rounds the magnitude of a value of a sign to. -/
def Rounds (mode : RoundingMode) (negative : Bool) (value : Rat) (pattern : Nat) : Prop :=
  match mode, negative with
  | .towardZero, _ | .downward, false | .upward, true => format.RoundsInward value pattern
  | .upward, false | .downward, true => format.RoundsOutward value pattern
  | .nearestEven, _ => format.RoundsToEven value pattern
  | .nearestAway, _ => format.RoundsAway value pattern
  | .unlisted, _ => format.Truncates value pattern

end Format

namespace RoundingMode

/-- Whether a mode stays finite when a value of a sign overflows. -/
def saturates : RoundingMode → Bool → Bool
  | .towardZero, _ => true
  | .downward, negative => !negative
  | .upward, negative => negative
  | _, _ => false

end RoundingMode

namespace Format

variable (format : Format)

/-- The pattern that a rounded one becomes when the format ends. -/
def capped (mode : RoundingMode) (negative : Bool) (pattern : Nat) : Nat :=
  if format.exponentMask ≤ pattern then
    if mode.saturates negative then format.largestFinite else format.exponentMask
  else pattern

theorem capped_of_not_saturates {mode : RoundingMode} {negative : Bool} (infinite : mode.saturates negative = false)
    (pattern : Nat) : format.capped mode negative pattern = min pattern format.exponentMask := by
  unfold capped
  simp only [infinite, Bool.false_eq_true, if_false]
  split_ifs <;> omega

theorem capped_of_saturates {mode : RoundingMode} {negative : Bool} (finite : mode.saturates negative = true)
    (pattern : Nat) : format.capped mode negative pattern = min pattern format.largestFinite := by
  have next := format.largestFinite_succ
  unfold capped
  simp only [finite, if_true]
  split_ifs <;> omega

section Neighbours

variable {format} {prefers : Nat → Nat → Prop} {value : Rat} {pattern : Nat}

theorem magnitudeAt_le_iff (low : format.magnitudeAt pattern ≤ value) (high : value < format.magnitudeAt (pattern + 1))
    (candidate : Nat) : format.magnitudeAt candidate ≤ value ↔ candidate ≤ pattern := by
  constructor
  · intro below
    exact Nat.le_of_lt_succ (format.magnitudeAt_strictMono.lt_iff_lt.mp (below.trans_lt high))
  · intro below
    exact (format.magnitudeAt_strictMono.monotone below).trans low

theorem roundsInward_min (low : format.magnitudeAt pattern ≤ value) (high : value < format.magnitudeAt (pattern + 1)) :
    format.RoundsInward value (min pattern format.largestFinite) := by
  constructor
  · exact ⟨min_le_right _ _, (magnitudeAt_le_iff low high _).mpr (min_le_left _ _)⟩
  · rintro candidate ⟨finite, below⟩
    exact le_min ((magnitudeAt_le_iff low high candidate).mp below) finite

theorem truncates_min (low : format.magnitudeAt pattern ≤ value) (high : value < format.magnitudeAt (pattern + 1)) :
    format.Truncates value (min pattern format.exponentMask) := by
  constructor
  · exact ⟨min_le_right _ _, (magnitudeAt_le_iff low high _).mpr (min_le_left _ _)⟩
  · rintro candidate ⟨inside, below⟩
    exact le_min ((magnitudeAt_le_iff low high candidate).mp below) inside

/-- Outward rounding takes the first pattern that is not below the value, if the format reaches it. -/
theorem roundsOutward_min (reached : value ≤ format.magnitudeAt pattern)
    (first : ∀ candidate < pattern, format.magnitudeAt candidate < value) :
    format.RoundsOutward value (min pattern format.exponentMask) := by
  constructor
  · refine ⟨min_le_right _ _, ?_⟩
    rcases le_total pattern format.exponentMask with inside | beyond
    · exact Or.inl (by rwa [min_eq_left inside])
    · exact Or.inr (min_eq_right beyond)
  · rintro candidate ⟨inside, above | infinite⟩
    · apply (min_le_left _ _).trans
      by_contra short
      exact absurd (first candidate (Nat.lt_of_not_le short)) (not_lt.mpr above)
    · exact (min_le_right _ _).trans infinite.ge

theorem distance_below {candidate : Nat} (reached : format.magnitudeAt candidate ≤ value) :
    |value - format.magnitudeAt candidate| = value - format.magnitudeAt candidate :=
  abs_of_nonneg (sub_nonneg.mpr reached)

theorem distance_above {candidate : Nat} (reached : value ≤ format.magnitudeAt candidate) :
    |value - format.magnitudeAt candidate| = format.magnitudeAt candidate - value := by
  rw [abs_sub_comm]
  exact abs_of_nonneg (sub_nonneg.mpr reached)

/-- The lower neighbour is nearest when the upper one is farther away or comes second. -/
theorem roundsNearest_lower (inside : pattern < format.exponentMask) (low : format.magnitudeAt pattern ≤ value)
    (high : value < format.magnitudeAt (pattern + 1))
    (nearer : value - format.magnitudeAt pattern < format.magnitudeAt (pattern + 1) - value ∨
      value - format.magnitudeAt pattern = format.magnitudeAt (pattern + 1) - value ∧ prefers pattern (pattern + 1)) :
    format.RoundsNearest prefers value pattern := by
  refine ⟨inside.le, fun other _ distinct => ?_⟩
  rw [distance_below low]
  rcases lt_or_gt_of_ne distinct with below | above
  · have smaller := format.magnitudeAt_strictMono below
    rw [distance_below (smaller.le.trans low)]
    exact Or.inl (by linarith)
  rcases eq_or_lt_of_le (Nat.succ_le_of_lt above) with next | later
  · subst next
    rwa [distance_above high.le]
  · have larger := format.magnitudeAt_strictMono later
    rw [distance_above (high.le.trans larger.le)]
    left
    rcases nearer with less | ⟨equal, -⟩ <;> linarith

/-- The upper neighbour is nearest when the lower one is farther away or comes second. -/
theorem roundsNearest_upper (inside : pattern < format.exponentMask) (low : format.magnitudeAt pattern ≤ value)
    (high : value < format.magnitudeAt (pattern + 1))
    (nearer : format.magnitudeAt (pattern + 1) - value < value - format.magnitudeAt pattern ∨
      format.magnitudeAt (pattern + 1) - value = value - format.magnitudeAt pattern ∧ prefers (pattern + 1) pattern) :
    format.RoundsNearest prefers value (pattern + 1) := by
  refine ⟨inside, fun other _ distinct => ?_⟩
  rw [distance_above high.le]
  rcases lt_or_gt_of_ne distinct with below | above
  · rcases eq_or_lt_of_le (Nat.le_of_lt_succ below) with previous | earlier
    · subst previous
      rwa [distance_below low]
    · have smaller := format.magnitudeAt_strictMono earlier
      rw [distance_below (smaller.le.trans low)]
      left
      rcases nearer with less | ⟨equal, -⟩ <;> linarith
  · have larger := format.magnitudeAt_strictMono above
    rw [distance_above (high.le.trans larger.le)]
    exact Or.inl (by linarith)

/-- Infinity is nearest to all values from the point of overflow on. -/
theorem roundsNearest_exponentMask (overflow : format.magnitudeAt format.exponentMask ≤ value) :
    format.RoundsNearest prefers value format.exponentMask := by
  refine ⟨le_rfl, fun other inside distinct => Or.inl ?_⟩
  have smaller := format.magnitudeAt_strictMono (lt_of_le_of_ne inside distinct)
  rw [distance_below overflow, distance_below (smaller.le.trans overflow)]
  linarith

/-- The nearest of two neighbours stays nearest when the format ends at infinity. -/
theorem roundsNearest_min {rounded : Nat} (low : format.magnitudeAt pattern ≤ value)
    (high : value < format.magnitudeAt (pattern + 1))
    (nearer : rounded = pattern ∧ (value - format.magnitudeAt pattern < format.magnitudeAt (pattern + 1) - value ∨
        value - format.magnitudeAt pattern = format.magnitudeAt (pattern + 1) - value ∧ prefers pattern (pattern + 1)) ∨
      rounded = pattern + 1 ∧ (format.magnitudeAt (pattern + 1) - value < value - format.magnitudeAt pattern ∨
        format.magnitudeAt (pattern + 1) - value = value - format.magnitudeAt pattern ∧
          prefers (pattern + 1) pattern)) :
    format.RoundsNearest prefers value (min rounded format.exponentMask) := by
  rcases le_or_gt format.exponentMask pattern with beyond | inside
  · rw [min_eq_right (by omega)]
    exact roundsNearest_exponentMask ((format.magnitudeAt_strictMono.monotone beyond).trans low)
  rw [min_eq_left (by omega)]
  rcases nearer with ⟨rfl, lower⟩ | ⟨rfl, upper⟩
  · exact roundsNearest_lower inside low high lower
  · exact roundsNearest_upper inside low high upper

end Neighbours

/-- A value is a significand in one place of a format and a fraction that the significand leaves out. -/
structure Splits (value : Rat) (place quotient : Nat) (fraction : Rat) : Prop where
  leading : place = 0 ∨ format.significandOne ≤ quotient
  short : quotient < 2 * format.significandOne
  nonnegative : 0 ≤ fraction
  proper : fraction < 1
  value_eq : value = (quotient + fraction) * format.spacing place

namespace Splits

variable {format} {value : Rat} {place quotient rounded : Nat} {fraction : Rat}

theorem zero : format.Splits 0 0 0 0 :=
  ⟨Or.inl rfl, Nat.mul_pos (by decide) format.significandOne_pos, le_rfl, by norm_num, by simp⟩

theorem lower (split : format.Splits value place quotient fraction) :
    format.magnitudeAt (quotient + place * format.significandOne) = value - fraction * format.spacing place := by
  rw [split.value_eq, magnitudeAt_place format split.leading split.short.le]
  ring

theorem upper (split : format.Splits value place quotient fraction) :
    format.magnitudeAt (quotient + place * format.significandOne + 1) =
      value + (1 - fraction) * format.spacing place := by
  rw [split.value_eq, magnitudeAt_place_succ format split.leading split.short]
  ring

theorem low (split : format.Splits value place quotient fraction) :
    format.magnitudeAt (quotient + place * format.significandOne) ≤ value := by
  have lost := mul_nonneg split.nonnegative (format.spacing_pos place).le
  rw [split.lower]
  linarith

theorem high (split : format.Splits value place quotient fraction) :
    value < format.magnitudeAt (quotient + place * format.significandOne + 1) := by
  have gained := mul_pos (sub_pos.mpr split.proper) (format.spacing_pos place)
  rw [split.upper]
  linarith

/-- A fraction of zero means that the value is in the format. -/
theorem exact (split : format.Splits value place quotient 0) :
    format.magnitudeAt (quotient + place * format.significandOne) = value := by
  rw [split.lower]
  ring

theorem roundsOutward (split : format.Splits value place quotient fraction)
    (raised : 0 < fraction → rounded = quotient + 1) (kept : ¬0 < fraction → rounded = quotient) :
    format.RoundsOutward value (min (rounded + place * format.significandOne) format.exponentMask) := by
  by_cases lost : 0 < fraction
  · rw [raised lost, Nat.add_right_comm]
    apply roundsOutward_min split.high.le
    intro candidate before
    have below := format.magnitudeAt_strictMono.monotone (Nat.le_of_lt_succ before)
    have missing := mul_pos lost (format.spacing_pos place)
    rw [split.lower] at below
    linarith
  · have zero : fraction = 0 := le_antisymm (not_lt.mp lost) split.nonnegative
    subst zero
    rw [kept lost]
    apply roundsOutward_min split.exact.ge
    intro candidate before
    exact (format.magnitudeAt_strictMono before).trans_eq split.exact

theorem roundsNearest {prefers : Nat → Nat → Prop} {raises : Prop} (split : format.Splits value place quotient fraction)
    (raised : raises → rounded = quotient + 1) (kept : ¬raises → rounded = quotient)
    (up : raises → 1 / 2 < fraction ∨ fraction = 1 / 2 ∧
      prefers (quotient + place * format.significandOne + 1) (quotient + place * format.significandOne))
    (down : ¬raises → fraction < 1 / 2 ∨ fraction = 1 / 2 ∧
      prefers (quotient + place * format.significandOne) (quotient + place * format.significandOne + 1)) :
    format.RoundsNearest prefers value (min (rounded + place * format.significandOne) format.exponentMask) := by
  have positive := format.spacing_pos place
  apply roundsNearest_min split.low split.high
  rw [split.lower, split.upper]
  by_cases choice : raises
  · refine Or.inr ⟨by rw [raised choice, Nat.add_right_comm], ?_⟩
    rcases up choice with above | ⟨middle, first⟩
    · left
      nlinarith
    · right
      exact ⟨by rw [middle]; ring, first⟩
  · refine Or.inl ⟨by rw [kept choice], ?_⟩
    rcases down choice with beneath | ⟨middle, first⟩
    · left
      nlinarith
    · right
      exact ⟨by rw [middle]; ring, first⟩

/-- The last bit of a significand is that of its pattern. -/
theorem parity (place quotient : Nat) : (quotient + place * format.significandOne) % 2 = quotient % 2 := by
  rw [Nat.add_mod, Nat.mul_mod, significandOne_even, Nat.mul_zero, Nat.zero_mod, Nat.add_zero, Nat.mod_mod]

theorem roundsToEven (split : format.Splits value place quotient fraction)
    (raised : (1 / 2 < fraction ∨ fraction = 1 / 2 ∧ quotient % 2 = 1) → rounded = quotient + 1)
    (kept : ¬(1 / 2 < fraction ∨ fraction = 1 / 2 ∧ quotient % 2 = 1) → rounded = quotient) :
    format.RoundsToEven value (min (rounded + place * format.significandOne) format.exponentMask) := by
  have same : (quotient + place * format.significandOne) % 2 = quotient % 2 := parity place quotient
  apply split.roundsNearest raised kept
  · rintro (above | ⟨middle, odd⟩)
    · exact Or.inl above
    · exact Or.inr ⟨middle, by omega⟩
  · intro stays
    obtain ⟨atMost, untied⟩ := not_or.mp stays
    rcases lt_or_eq_of_le (not_lt.mp atMost) with less | middle
    · exact Or.inl less
    · have even : ¬quotient % 2 = 1 := fun odd => untied ⟨middle, odd⟩
      exact Or.inr ⟨middle, by omega⟩

theorem roundsAway (split : format.Splits value place quotient fraction)
    (raised : 1 / 2 ≤ fraction → rounded = quotient + 1) (kept : ¬1 / 2 ≤ fraction → rounded = quotient) :
    format.RoundsAway value (min (rounded + place * format.significandOne) format.exponentMask) := by
  apply split.roundsNearest raised kept
  · intro choice
    rcases lt_or_eq_of_le choice with less | middle
    · exact Or.inl less
    · exact Or.inr ⟨middle.symm, Nat.lt_succ_self _⟩
  · intro stays
    exact Or.inl (not_le.mp stays)

/-- A value is rounded by raising its significand or not. The carry into the next place needs no case of its own, since
patterns count on through it. -/
theorem rounds (split : format.Splits value place quotient fraction) (mode : RoundingMode) (negative : Bool)
    (raised : mode.Raises negative (quotient % 2 = 1) fraction → rounded = quotient + 1)
    (kept : ¬mode.Raises negative (quotient % 2 = 1) fraction → rounded = quotient) :
    format.Rounds mode negative value (format.capped mode negative (rounded + place * format.significandOne)) := by
  have inward (same : rounded = quotient) :
      format.RoundsInward value (min (rounded + place * format.significandOne) format.largestFinite) := by
    rw [same]
    exact roundsInward_min split.low split.high
  cases mode with
  | nearestEven =>
      rw [capped_of_not_saturates format rfl]
      exact split.roundsToEven raised kept
  | nearestAway =>
      rw [capped_of_not_saturates format rfl]
      exact split.roundsAway raised kept
  | towardZero =>
      rw [capped_of_saturates format rfl]
      exact inward (kept id)
  | unlisted =>
      rw [capped_of_not_saturates format rfl, kept id]
      exact truncates_min split.low split.high
  | downward =>
      cases negative
      · rw [capped_of_saturates format rfl]
        exact inward (kept (by simp [RoundingMode.Raises]))
      · rw [capped_of_not_saturates format rfl]
        simp only [RoundingMode.Raises, and_true] at raised kept
        exact split.roundsOutward raised kept
  | upward =>
      cases negative
      · rw [capped_of_not_saturates format rfl]
        simp only [RoundingMode.Raises, and_true] at raised kept
        exact split.roundsOutward raised kept
      · rw [capped_of_saturates format rfl]
        exact inward (kept (by simp [RoundingMode.Raises]))

end Splits

end Format

end HalfPrecision
