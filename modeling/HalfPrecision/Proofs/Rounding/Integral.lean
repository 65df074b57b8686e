import HalfPrecision.Proofs.Format.Line
import HalfPrecision.Proofs.Rounding.Shift

/-!
This file describes the rounding of values to integers. Each mode keeps the whole part of a magnitude or raises it by
one. This keeps the order of magnitudes and all integers, and it is the same on both sides of zero for mirrored modes.
-/

namespace HalfPrecision

/-- The integer nearest to a value. Of two that are equally near, it is the one that `prefers` puts first. -/
def NearestInteger (prefers : Int → Int → Prop) (value : Rat) (integer : Int) : Prop :=
  ∀ other, other ≠ integer →
    |value - integer| < |value - other| ∨ |value - integer| = |value - other| ∧ prefers integer other

theorem NearestInteger.neg {prefers opposite : Int → Int → Prop} {value : Rat} {integer : Int}
    (nearest : NearestInteger prefers value integer)
    (turned : ∀ first second, prefers first (-second) → opposite (-first) second) :
    NearestInteger opposite (-value) (-integer) := by
  have distance (candidate : Int) : |-value - candidate| = |value - (-candidate : Int)| := by
    rw [← abs_neg]
    push_cast
    ring_nf
  intro other distinct
  rw [distance, distance, neg_neg]
  exact (nearest (-other) fun same => distinct (by omega)).imp id (And.imp id (turned integer other))

section Neighbours

variable {prefers : Int → Int → Prop} {quotient : Nat} {fraction : Rat} (nonnegative : 0 ≤ fraction)
    (proper : fraction < 1)

include nonnegative proper

/-- The whole part of a value is nearest when the next integer is farther away or comes second. -/
theorem nearestInteger_lower (nearer : fraction < 1 / 2 ∨ fraction = 1 / 2 ∧ prefers quotient (quotient + 1)) :
    NearestInteger prefers (quotient + fraction) quotient := by
  intro other distinct
  have lost : |(quotient : Rat) + fraction - (quotient : Int)| = fraction := by
    rw [Int.cast_natCast, add_sub_cancel_left, abs_of_nonneg nonnegative]
  rw [lost]
  rcases lt_or_gt_of_ne distinct with below | above
  · have far : (other : Rat) + 1 ≤ quotient := by exact_mod_cast below
    rw [abs_of_nonneg (by linarith)]
    exact Or.inl (by linarith)
  · rcases eq_or_lt_of_le (Int.add_one_le_of_lt above) with next | later
    · subst next
      have gained : |(quotient : Rat) + fraction - ((quotient : Int) + 1 : Int)| = 1 - fraction := by
        rw [abs_of_nonpos] <;> push_cast <;> linarith
      rw [gained]
      exact nearer.imp (fun less => by linarith) fun ⟨middle, first⟩ => ⟨by linarith, first⟩
    · have far : (quotient : Rat) + 2 ≤ other := by exact_mod_cast later
      rw [abs_of_nonpos (by linarith)]
      left
      rcases nearer with less | ⟨middle, -⟩ <;> linarith

/-- The integer after a value is nearest when the whole part is farther away or comes second. -/
theorem nearestInteger_upper (nearer : 1 / 2 < fraction ∨ fraction = 1 / 2 ∧ prefers (quotient + 1) quotient) :
    NearestInteger prefers (quotient + fraction) (quotient + 1) := by
  intro other distinct
  have gained : |(quotient : Rat) + fraction - ((quotient : Int) + 1 : Int)| = 1 - fraction := by
    rw [abs_of_nonpos] <;> push_cast <;> linarith
  rw [gained]
  rcases lt_or_gt_of_ne distinct with below | above
  · rcases eq_or_lt_of_le (Int.le_of_lt_add_one below) with previous | earlier
    · subst previous
      have lost : |(quotient : Rat) + fraction - (quotient : Int)| = fraction := by
        rw [Int.cast_natCast, add_sub_cancel_left, abs_of_nonneg nonnegative]
      rw [lost]
      exact nearer.imp (fun less => by linarith) fun ⟨middle, first⟩ => ⟨by linarith, first⟩
    · have far : (other : Rat) + 1 ≤ quotient := by exact_mod_cast earlier
      rw [abs_of_nonneg (by linarith)]
      left
      rcases nearer with less | ⟨middle, -⟩ <;> linarith
  · have far : (quotient : Rat) + 1 + 1 ≤ other := by exact_mod_cast above
    rw [abs_of_nonpos (by linarith)]
    exact Or.inl (by linarith)

end Neighbours

namespace RoundingMode

/-- The integer that a mode rounds a value to, by order and distance alone. -/
def RoundsToInteger (mode : RoundingMode) (value : Rat) (integer : Int) : Prop :=
  match mode with
  | .nearestEven => NearestInteger (fun integer _ => integer % 2 = 0) value integer
  | .nearestAway => NearestInteger (fun integer other => |other| < |integer|) value integer
  | .downward => integer = ⌊value⌋
  | .upward => integer = ⌈value⌉
  | .towardZero | .unlisted => integer = if value < 0 then ⌈value⌉ else ⌊value⌋

/-- The mode that does with negative values what a mode does with positive ones. -/
def mirrored : RoundingMode → RoundingMode
  | .downward => .upward
  | .upward => .downward
  | mode => mode

theorem raises_mirrored (mode : RoundingMode) (negative : Bool) (odd : Prop) (fraction : Rat) :
    mode.mirrored.Raises (!negative) odd fraction ↔ mode.Raises negative odd fraction := by
  cases mode <;> cases negative <;> simp [mirrored, Raises]

/-- A larger fraction is raised if a smaller one is. -/
theorem Raises.mono {mode : RoundingMode} {negative : Bool} {odd : Prop} {lower upper : Rat}
    (raised : mode.Raises negative odd lower) (ordered : lower ≤ upper) : mode.Raises negative odd upper := by
  cases mode with
  | nearestEven =>
      rcases raised with above | ⟨middle, tie⟩
      · exact Or.inl (above.trans_le ordered)
      · exact (lt_or_eq_of_le (middle.ge.trans ordered)).imp id fun same => ⟨same.symm, tie⟩
  | nearestAway => exact le_trans raised ordered
  | downward => exact ⟨raised.1.trans_le ordered, raised.2⟩
  | upward => exact ⟨raised.1.trans_le ordered, raised.2⟩
  | towardZero | unlisted => exact raised

/-- Only what a value lost is raised. -/
theorem Raises.pos {mode : RoundingMode} {negative : Bool} {odd : Prop} {fraction : Rat}
    (raised : mode.Raises negative odd fraction) (nonnegative : 0 ≤ fraction) : 0 < fraction := by
  apply lt_of_le_of_ne nonnegative
  rintro rfl
  exact mode.not_raises_zero negative odd raised

end RoundingMode

/-- The whole part of a magnitude, or one more if the mode takes the upper neighbour. -/
structure RoundsWhole (mode : RoundingMode) (negative : Bool) (magnitude : Rat) (rounded : Nat) : Prop where
  raised : mode.Raises negative (⌊magnitude⌋₊ % 2 = 1) (Int.fract magnitude) → rounded = ⌊magnitude⌋₊ + 1
  kept : ¬mode.Raises negative (⌊magnitude⌋₊ % 2 = 1) (Int.fract magnitude) → rounded = ⌊magnitude⌋₊

/-- A magnitude is its whole part and a fraction below one. -/
theorem natFloor_add_fract {magnitude : Rat} (nonnegative : 0 ≤ magnitude) :
    (⌊magnitude⌋₊ : Rat) + Int.fract magnitude = magnitude := by
  rw [natCast_floor_eq_intCast_floor nonnegative, Int.floor_add_fract]

theorem natFloor_eq {quotient : Nat} {fraction : Rat} (nonnegative : 0 ≤ fraction) (proper : fraction < 1) :
    ⌊(quotient : Rat) + fraction⌋₊ = quotient := by
  rw [Nat.floor_eq_iff (by positivity)]
  constructor <;> linarith

theorem fract_eq {quotient : Nat} {fraction : Rat} (nonnegative : 0 ≤ fraction) (proper : fraction < 1) :
    Int.fract ((quotient : Rat) + fraction) = fraction := by
  rw [Int.fract_natCast_add, Int.fract_eq_self.mpr ⟨nonnegative, proper⟩]

/-- A shift rounds the quotient to a whole number. -/
theorem ShiftRounds.roundsWhole {mode : RoundingMode} {negative : Bool} {significand rounded : Nat} {shift : Int}
    (shifted : ShiftRounds mode negative significand shift rounded) :
    RoundsWhole mode negative (significand * (2 : Rat) ^ (-shift)) rounded := by
  have nonnegative := lostFraction_nonneg significand shift
  have proper := lostFraction_lt_one significand shift
  rw [← shiftedDown_add_lostFraction]
  constructor <;> rw [natFloor_eq nonnegative proper, fract_eq nonnegative proper]
  · exact shifted.raised
  · exact shifted.kept

namespace RoundsWhole

variable {mode : RoundingMode} {negative : Bool} {magnitude lower upper : Rat} {rounded other : Nat}

theorem near (rounds : RoundsWhole mode negative magnitude rounded) :
    rounded = ⌊magnitude⌋₊ + 1 ∨ rounded = ⌊magnitude⌋₊ :=
  (em _).imp rounds.raised rounds.kept

/-- Integers are kept in all modes. -/
theorem natCast (mode : RoundingMode) (negative : Bool) (integer : Nat) :
    RoundsWhole mode negative (integer : Rat) integer where
  raised := by
    rw [Int.fract_natCast]
    exact fun raised => absurd raised (mode.not_raises_zero negative _)
  kept := fun _ => (Nat.floor_natCast integer).symm

/-- Rounding keeps the order of magnitudes. -/
theorem mono (first : RoundsWhole mode negative lower rounded) (second : RoundsWhole mode negative upper other)
    (nonnegative : 0 ≤ lower) (ordered : lower ≤ upper) : rounded ≤ other := by
  rcases (Nat.floor_mono ordered).eq_or_lt with same | less
  · by_cases raised : mode.Raises negative (⌊lower⌋₊ % 2 = 1) (Int.fract lower)
    · have fractions : Int.fract lower ≤ Int.fract upper := by
        have left := natFloor_add_fract nonnegative
        have right := natFloor_add_fract (nonnegative.trans ordered)
        rw [← same] at right
        linarith
      have raisedToo := raised.mono fractions
      rw [same] at raisedToo
      rw [first.raised raised, second.raised raisedToo, same]
    · have reached := second.near
      rw [first.kept raised]
      omega
  · have above := first.near
    have reached := second.near
    omega

/-- A mirrored mode rounds the negated value. -/
theorem mirrored (rounds : RoundsWhole mode negative magnitude rounded) :
    RoundsWhole mode.mirrored (!negative) magnitude rounded := by
  constructor <;> rw [RoundingMode.raises_mirrored]
  · exact rounds.raised
  · exact rounds.kept

/-- Each mode rounds a value as one of the directed modes does. -/
theorem directed (rounds : RoundsWhole mode negative magnitude rounded) :
    RoundsWhole .downward negative magnitude rounded ∨ RoundsWhole .upward negative magnitude rounded := by
  by_cases raised : mode.Raises negative (⌊magnitude⌋₊ % 2 = 1) (Int.fract magnitude)
  · have lost := raised.pos (Int.fract_nonneg magnitude)
    have result := rounds.raised raised
    cases negative
    · exact Or.inr ⟨fun _ => result, fun stays => absurd ⟨lost, rfl⟩ stays⟩
    · exact Or.inl ⟨fun _ => result, fun stays => absurd ⟨lost, rfl⟩ stays⟩
  · have result := rounds.kept raised
    cases negative
    · exact Or.inl ⟨fun raised => absurd raised.2 Bool.false_ne_true, fun _ => result⟩
    · exact Or.inr ⟨fun raised => absurd raised.2.symm Bool.false_ne_true, fun _ => result⟩

section Signed

variable (rounds : RoundsWhole mode negative magnitude rounded) (nonnegative : 0 ≤ magnitude)

include rounds nonnegative

/-- A mode that never raises magnitudes of a sign takes the whole part. -/
theorem eq_floor (inward : ∀ odd fraction, ¬mode.Raises negative odd fraction) : (rounded : Int) = ⌊magnitude⌋ := by
  rw [rounds.kept (inward _ _), Int.natCast_floor_eq_floor nonnegative]

/-- A mode that raises all magnitudes of a sign that are no integers takes the next integer. -/
theorem eq_ceil (outward : ∀ odd fraction, 0 < fraction → mode.Raises negative odd fraction) :
    (rounded : Int) = ⌈magnitude⌉ := by
  have whole := natFloor_add_fract nonnegative
  have proper := Int.fract_lt_one magnitude
  symm
  rw [Int.ceil_eq_iff, Int.cast_natCast]
  rcases (Int.fract_nonneg magnitude).eq_or_lt with zero | lost
  · rw [rounds.kept fun raised => absurd (zero.trans_gt (raised.pos zero.le)) (lt_irrefl _)]
    constructor <;> linarith
  · rw [rounds.raised (outward _ _ lost)]
    push_cast
    constructor <;> linarith

/-- A mode that raises magnitudes from one half on, or from just above it, takes the nearest integer. -/
theorem nearestInteger {prefers : Int → Int → Prop}
    (up : ∀ quotient : Nat, ∀ fraction, mode.Raises negative (quotient % 2 = 1) fraction →
      1 / 2 < fraction ∨ fraction = 1 / 2 ∧ prefers (quotient + 1) quotient)
    (down : ∀ quotient : Nat, ∀ fraction, ¬mode.Raises negative (quotient % 2 = 1) fraction →
      fraction < 1 / 2 ∨ fraction = 1 / 2 ∧ prefers quotient (quotient + 1)) :
    NearestInteger prefers magnitude rounded := by
  have lost := Int.fract_nonneg magnitude
  have proper := Int.fract_lt_one magnitude
  by_cases raised : mode.Raises negative (⌊magnitude⌋₊ % 2 = 1) (Int.fract magnitude)
  · have nearest := nearestInteger_upper lost proper (up _ _ raised)
    rw [natFloor_add_fract nonnegative] at nearest
    rwa [rounds.raised raised]
  · have nearest := nearestInteger_lower lost proper (down _ _ raised)
    rw [natFloor_add_fract nonnegative] at nearest
    rwa [rounds.kept raised]

end Signed

theorem nearestInteger_even (rounds : RoundsWhole .nearestEven negative magnitude rounded)
    (nonnegative : 0 ≤ magnitude) :
    NearestInteger (fun integer _ => integer % 2 = 0) magnitude rounded := by
  apply rounds.nearestInteger nonnegative
  · intro quotient fraction raised
    exact raised.imp id fun ⟨middle, odd⟩ => ⟨middle, by omega⟩
  · intro quotient fraction kept
    obtain ⟨atMost, untied⟩ := not_or.mp kept
    rcases lt_or_eq_of_le (not_lt.mp atMost) with less | middle
    · exact Or.inl less
    · have even : ¬quotient % 2 = 1 := fun odd => untied ⟨middle, odd⟩
      exact Or.inr ⟨middle, by omega⟩

theorem nearestInteger_away (rounds : RoundsWhole .nearestAway negative magnitude rounded)
    (nonnegative : 0 ≤ magnitude) :
    NearestInteger (fun integer other => |other| < |integer|) magnitude rounded := by
  apply rounds.nearestInteger nonnegative
  · intro quotient fraction raised
    refine (lt_or_eq_of_le raised).imp id fun middle => ⟨middle.symm, ?_⟩
    rw [abs_of_nonneg (by omega), abs_of_nonneg (by omega)]
    omega
  · intro quotient fraction kept
    exact Or.inl (not_le.mp kept)

/-- A rounded magnitude with its sign is the integer that the mode rounds the value to. -/
theorem roundsToInteger (rounds : RoundsWhole mode negative magnitude rounded) (nonnegative : 0 ≤ magnitude) :
    mode.RoundsToInteger (if negative then -magnitude else magnitude) (withSign negative rounded) := by
  have truncated (inward : ∀ odd fraction, ¬mode.Raises negative odd fraction) :
      withSign negative rounded =
        if (if negative then -magnitude else magnitude) < 0 then ⌈if negative then -magnitude else magnitude⌉
        else ⌊if negative then -magnitude else magnitude⌋ := by
    have whole := rounds.eq_floor nonnegative inward
    cases negative
    · simpa [nonnegative.not_gt] using whole
    · rcases nonnegative.eq_or_lt with rfl | positive
      · simpa using whole
      · simpa [positive, Int.ceil_neg] using whole
  cases mode with
  | nearestEven =>
      have nearest := rounds.nearestInteger_even nonnegative
      cases negative
      · exact nearest
      · change NearestInteger (fun integer _ => integer % 2 = 0) (-magnitude) (-(rounded : Int))
        exact nearest.neg fun first _ even => (Int.neg_emod_two first).trans even
  | nearestAway =>
      have nearest := rounds.nearestInteger_away nonnegative
      cases negative
      · exact nearest
      · change NearestInteger (fun integer other => |other| < |integer|) (-magnitude) (-(rounded : Int))
        refine nearest.neg fun first second farther => ?_
        rwa [abs_neg] at farther ⊢
  | downward =>
      cases negative
      · exact rounds.eq_floor nonnegative fun _ _ raised => absurd raised.2 Bool.false_ne_true
      · have least := rounds.eq_ceil nonnegative fun _ _ lost => ⟨lost, rfl⟩
        simpa [RoundingMode.RoundsToInteger, Int.floor_neg] using least
  | upward =>
      cases negative
      · exact rounds.eq_ceil nonnegative fun _ _ lost => ⟨lost, rfl⟩
      · have whole := rounds.eq_floor nonnegative fun _ _ raised => absurd raised.2.symm Bool.false_ne_true
        simpa [RoundingMode.RoundsToInteger, Int.ceil_neg] using whole
  | towardZero => exact truncated fun _ _ => id
  | unlisted => exact truncated fun _ _ => id

end RoundsWhole

end HalfPrecision
