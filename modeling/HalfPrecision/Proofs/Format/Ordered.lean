import HalfPrecision.Proofs.Format.Rounded

/-!
This file shows how rounding keeps the order of values. Nearest rounding never passes a pattern that its value does not
pass, and the midpoint of two neighbours decides between them.
-/

namespace HalfPrecision.Format

/-- The middle between a pattern's magnitude and the next one. -/
def midpoint (format : Format) (pattern : Nat) : Rat :=
  (format.magnitudeAt pattern + format.magnitudeAt (pattern + 1)) / 2

theorem magnitudeAt_lt_midpoint (format : Format) (pattern : Nat) :
    format.magnitudeAt pattern < format.midpoint pattern := by
  have larger := format.magnitudeAt_strictMono (Nat.lt_add_one pattern)
  unfold midpoint
  linarith

theorem midpoint_lt_magnitudeAt (format : Format) (pattern : Nat) :
    format.midpoint pattern < format.magnitudeAt (pattern + 1) := by
  have larger := format.magnitudeAt_strictMono (Nat.lt_add_one pattern)
  unfold midpoint
  linarith

/-- The first midpoint is half of the smallest magnitude. -/
theorem midpoint_zero_eq (format : Format) :
    format.midpoint 0 = (2 : Rat) ^ (-(format.bias : Int) - format.fractionWidth) := by
  have positive := format.significandOne_pos
  have least : format.magnitudeAt 1 = format.spacing 0 := by
    simpa using format.magnitudeAt_place_succ (Or.inl rfl) (show 0 < 2 * format.significandOne by omega)
  rw [midpoint, magnitudeAt_zero, least, spacing, zero_add, div_eq_iff (by norm_num), ← zpow_add_one₀ (by norm_num)]
  congr 1
  push_cast
  ring

/-- The last midpoint is half a place below the power of two where values overflow. -/
theorem midpoint_largestFinite_eq (format : Format) (normal : 0 < format.bias) :
    format.midpoint format.largestFinite =
      (2 : Rat) ^ (format.bias + 1) - (2 : Rat) ^ ((format.bias : Int) - format.fractionWidth - 1) := by
  have positive := format.significandOne_pos
  obtain ⟨place, last⟩ := Nat.exists_eq_add_of_lt normal
  have pattern : format.largestFinite = 2 * format.significandOne - 1 + (2 * place + 1) * format.significandOne := by
    have next := format.largestFinite_succ
    rw [exponentMask_eq, last] at next
    have split : (2 * (0 + place + 1) + 1) * format.significandOne =
        2 * format.significandOne + (2 * place + 1) * format.significandOne := by ring
    omega
  have below : format.magnitudeAt format.largestFinite =
      format.magnitudeAt (format.largestFinite + 1) - format.spacing (2 * place + 1) := by
    rw [pattern, magnitudeAt_place_succ format (Or.inr (by omega)) (by omega),
      magnitudeAt_place format (Or.inr (by omega)) (by omega)]
    ring
  have half : format.spacing (2 * place + 1) = 2 * (2 : Rat) ^ ((format.bias : Int) - format.fractionWidth - 1) := by
    rw [spacing, ← zpow_one_add₀ (by norm_num), last]
    congr 1
    push_cast
    ring
  rw [midpoint, below, largestFinite_succ, magnitudeAt_exponentMask, half]
  ring

/-- The value is the magnitude of a pattern up to infinity. -/
def Holds (format : Format) (value : Rat) : Prop :=
  ∃ pattern ≤ format.exponentMask, format.magnitudeAt pattern = value

variable {format : Format} {prefers : Nat → Nat → Prop} {value limit : Rat} {pattern bound : Nat}

namespace RoundsNearest

/-- No pattern is nearer than the nearest one. -/
theorem distance_le {other : Nat} (nearest : format.RoundsNearest prefers value pattern)
    (inside : other ≤ format.exponentMask) :
    |value - format.magnitudeAt pattern| ≤ |value - format.magnitudeAt other| := by
  by_cases same : other = pattern
  · rw [same]
  · rcases nearest.2 other inside same with less | ⟨equal, -⟩
    · exact less.le
    · exact equal.le

/-- A value up to a pattern's magnitude is rounded to at most that pattern. -/
theorem le_of_le (nearest : format.RoundsNearest prefers value pattern) (inside : bound ≤ format.exponentMask)
    (reached : value ≤ format.magnitudeAt bound) : pattern ≤ bound := by
  by_contra passed
  have larger := format.magnitudeAt_strictMono (Nat.lt_of_not_le passed)
  have compared := nearest.distance_le inside
  rw [distance_above reached, distance_above (reached.trans larger.le)] at compared
  linarith

/-- A value from a pattern's magnitude on is rounded to at least that pattern. -/
theorem le_of_ge (nearest : format.RoundsNearest prefers value pattern) (inside : bound ≤ format.exponentMask)
    (reached : format.magnitudeAt bound ≤ value) : bound ≤ pattern := by
  by_contra missed
  have smaller := format.magnitudeAt_strictMono (Nat.lt_of_not_le missed)
  have compared := nearest.distance_le inside
  rw [distance_below reached, distance_below (smaller.le.trans reached)] at compared
  linarith

/-- The magnitude of a pattern is rounded to the pattern itself. -/
theorem eq_of_eq (nearest : format.RoundsNearest prefers value pattern) (inside : bound ≤ format.exponentMask)
    (same : value = format.magnitudeAt bound) : pattern = bound :=
  le_antisymm (nearest.le_of_le inside same.le) (nearest.le_of_ge inside same.ge)

/-- Below the midpoint of two neighbours, the upper one is not reached. -/
theorem le_of_lt_midpoint (nearest : format.RoundsNearest prefers value pattern) (inside : bound < format.exponentMask)
    (below : value < format.midpoint bound) : pattern ≤ bound := by
  by_contra passed
  have next := format.magnitudeAt_strictMono.monotone (Nat.succ_le_of_lt (Nat.lt_of_not_le passed))
  have compared := nearest.distance_le inside.le
  have passes : format.magnitudeAt bound < value := by
    by_contra reached
    exact passed (nearest.le_of_le inside.le (not_lt.mp reached))
  have missed := below.trans (format.midpoint_lt_magnitudeAt bound)
  unfold midpoint at below
  rw [Nat.succ_eq_add_one] at next
  rw [distance_below passes.le, distance_above (missed.le.trans next)] at compared
  linarith

/-- Above the midpoint of two neighbours, the upper one is reached. -/
theorem succ_le_of_midpoint_lt (nearest : format.RoundsNearest prefers value pattern)
    (inside : bound < format.exponentMask) (above : format.midpoint bound < value) : bound + 1 ≤ pattern := by
  by_contra missed
  have before := format.magnitudeAt_strictMono.monotone (show pattern ≤ bound by omega)
  have compared := nearest.distance_le (Nat.succ_le_of_lt inside)
  have misses : value < format.magnitudeAt (bound + 1) := by
    by_contra reached
    exact missed (nearest.le_of_ge inside (not_lt.mp reached))
  have passed := (format.magnitudeAt_lt_midpoint bound).trans above
  unfold midpoint at above
  rw [distance_above misses.le, distance_below (before.trans passed.le)] at compared
  linarith

/-- A value on one side of a magnitude of the format is rounded to that side. -/
theorem magnitudeAt_le (nearest : format.RoundsNearest prefers value pattern) (held : format.Holds limit)
    (reached : value ≤ limit) : format.magnitudeAt pattern ≤ limit := by
  obtain ⟨bound, inside, rfl⟩ := held
  exact format.magnitudeAt_strictMono.monotone (nearest.le_of_le inside reached)

theorem le_magnitudeAt (nearest : format.RoundsNearest prefers value pattern) (held : format.Holds limit)
    (reached : limit ≤ value) : limit ≤ format.magnitudeAt pattern := by
  obtain ⟨bound, inside, rfl⟩ := held
  exact format.magnitudeAt_strictMono.monotone (nearest.le_of_ge inside reached)

/-- A magnitude of the format is kept. -/
theorem magnitudeAt_eq (nearest : format.RoundsNearest prefers value pattern) (held : format.Holds value) :
    format.magnitudeAt pattern = value :=
  le_antisymm (nearest.magnitudeAt_le held le_rfl) (nearest.le_magnitudeAt held le_rfl)

end RoundsNearest

namespace RoundsToEven

/-- The midpoint of two neighbours is rounded to the even one. -/
theorem eq_of_midpoint (nearest : format.RoundsToEven value pattern) (inside : bound < format.exponentMask)
    (middle : value = format.midpoint bound) : pattern = if bound % 2 = 0 then bound else bound + 1 := by
  have passed := (format.magnitudeAt_lt_midpoint bound).trans_eq middle.symm
  have missed := middle.trans_lt (format.midpoint_lt_magnitudeAt bound)
  have lower : bound ≤ pattern := nearest.le_of_ge inside.le passed.le
  have upper : pattern ≤ bound + 1 := nearest.le_of_le inside missed.le
  unfold midpoint at middle
  obtain same | next : pattern = bound ∨ pattern = bound + 1 := by omega
  · subst same
    have compared := nearest.2 (pattern + 1) inside (by omega)
    rw [distance_below passed.le, distance_above missed.le] at compared
    rcases compared with less | ⟨-, even⟩
    · linarith
    · rw [if_pos even]
  · subst next
    have compared := nearest.2 bound inside.le (by omega)
    rw [distance_above missed.le, distance_below passed.le] at compared
    rcases compared with less | ⟨-, even⟩
    · linarith
    · rw [if_neg (by omega)]

/-- A value has only one nearest pattern. -/
theorem unique {other : Nat} (first : format.RoundsToEven value pattern) (second : format.RoundsToEven value other) :
    pattern = other := by
  wlog before : pattern < other generalizing pattern other with swapped
  · rcases eq_or_lt_of_le (not_lt.mp before) with same | after
    · exact same.symm
    · exact (swapped second first after).symm
  have inside : pattern < format.exponentMask := before.trans_le second.1
  rcases lt_trichotomy value (format.midpoint pattern) with below | middle | above
  · exact le_antisymm before.le (second.le_of_lt_midpoint inside below)
  · rw [second.eq_of_midpoint inside middle]
    exact first.eq_of_midpoint inside middle
  · exact absurd (first.succ_le_of_midpoint_lt inside above) (Nat.not_succ_le_self pattern)

/-- A larger value is rounded to no smaller pattern. -/
theorem mono {larger : Rat} {other : Nat} (first : format.RoundsToEven value pattern)
    (second : format.RoundsToEven larger other) (ordered : value ≤ larger) : pattern ≤ other := by
  by_contra before
  have inside : other < format.exponentMask := (Nat.lt_of_not_le before).trans_le first.1
  -- Neither value can lie beyond the midpoint after the smaller pattern, so both lie on it.
  rcases lt_trichotomy larger (format.midpoint other) with below | middle | above
  · exact before (first.le_of_lt_midpoint inside (ordered.trans_lt below))
  · rcases ordered.eq_or_lt with same | less
    · subst same
      exact before (first.unique second).le
    · exact before (first.le_of_lt_midpoint inside (less.trans_eq middle))
  · have passed := second.succ_le_of_midpoint_lt inside above
    omega

/-- A value is rounded to zero up to half of the smallest magnitude. -/
theorem eq_zero_iff (nearest : format.RoundsToEven value pattern) : pattern = 0 ↔ value ≤ format.midpoint 0 := by
  have one := format.significandOne_pos
  have finite : 0 < format.exponentMask := one.trans_le format.significandOne_le_exponentMask
  constructor
  · intro zero
    by_contra above
    have passed := nearest.succ_le_of_midpoint_lt finite (not_le.mp above)
    omega
  · intro reached
    rcases lt_or_eq_of_le reached with below | middle
    · exact Nat.le_zero.mp (nearest.le_of_lt_midpoint finite below)
    · exact nearest.eq_of_midpoint finite middle

/-- A value is rounded to infinity from the middle after the largest finite magnitude on. -/
theorem eq_exponentMask_iff (nearest : format.RoundsToEven value pattern) :
    pattern = format.exponentMask ↔ format.midpoint format.largestFinite ≤ value := by
  have next := format.largestFinite_succ
  have even := format.exponentMask_even
  have finite : format.largestFinite < format.exponentMask := by omega
  constructor
  · intro infinite
    by_contra below
    have short := nearest.le_of_lt_midpoint finite (not_le.mp below)
    omega
  · intro reached
    rcases lt_or_eq_of_le reached with above | middle
    · exact le_antisymm nearest.1 (next ▸ nearest.succ_le_of_midpoint_lt finite above)
    · rw [nearest.eq_of_midpoint finite middle.symm, if_neg (by omega), next]

end RoundsToEven

/-- Each value is bracketed by two neighbours, of which the upper one may be infinity. -/
theorem exists_bracket (format : Format) {value : Rat} (nonnegative : 0 ≤ value) :
    ∃ lower < format.exponentMask, format.magnitudeAt lower ≤ value ∧
      (lower + 1 = format.exponentMask ∨ value < format.magnitudeAt (lower + 1)) := by
  classical
  have next := format.largestFinite_succ
  obtain ⟨lower, found⟩ :
      ∃ lower, Nat.findGreatest (format.magnitudeAt · ≤ value) format.largestFinite = lower := ⟨_, rfl⟩
  obtain ⟨short, spec, greatest⟩ := Nat.findGreatest_eq_iff.mp found
  have reached : format.magnitudeAt lower ≤ value := by
    rcases Nat.eq_zero_or_pos lower with rfl | positive
    · exact format.magnitudeAt_zero.trans_le nonnegative
    · exact spec positive.ne'
  refine ⟨lower, by omega, reached, ?_⟩
  by_cases last : lower = format.largestFinite
  · exact Or.inl (by rw [last, next])
  · exact Or.inr (not_le.mp (greatest (Nat.lt_add_one lower) (by omega)))

namespace Rounds

variable {mode : RoundingMode} {negative : Bool}

/-- Each mode rounds in one of four ways. -/
theorem kind (rounds : format.Rounds mode negative value pattern) :
    format.RoundsInward value pattern ∨ format.RoundsOutward value pattern ∨ format.Truncates value pattern ∨
      ∃ prefers, format.RoundsNearest prefers value pattern := by
  cases mode with
  | nearestEven =>
      have nearest : format.RoundsToEven value pattern := rounds
      exact Or.inr (Or.inr (Or.inr ⟨_, nearest⟩))
  | nearestAway =>
      have nearest : format.RoundsAway value pattern := rounds
      exact Or.inr (Or.inr (Or.inr ⟨_, nearest⟩))
  | towardZero => exact Or.inl rounds
  | unlisted => exact Or.inr (Or.inr (Or.inl rounds))
  | downward =>
      cases negative
      · exact Or.inl rounds
      · exact Or.inr (Or.inl rounds)
  | upward =>
      cases negative
      · exact Or.inr (Or.inl rounds)
      · exact Or.inl rounds

/-- No mode goes past infinity. -/
theorem le (rounds : format.Rounds mode negative value pattern) : pattern ≤ format.exponentMask := by
  have next := format.largestFinite_succ
  rcases rounds.kind with inward | outward | truncates | ⟨prefers, nearest⟩
  · have finite := inward.1.1
    omega
  · exact outward.1.1
  · exact truncates.1.1
  · exact nearest.1

/-- No mode moves a value of the format. -/
theorem eq_of_eq (rounds : format.Rounds mode negative value pattern) (finite : bound < format.exponentMask)
    (same : value = format.magnitudeAt bound) : pattern = bound := by
  have next := format.largestFinite_succ
  have reach (candidate : Nat) : format.magnitudeAt candidate ≤ value ↔ candidate ≤ bound := by
    rw [same, format.magnitudeAt_strictMono.le_iff_le]
  have reached (candidate : Nat) : value ≤ format.magnitudeAt candidate ↔ bound ≤ candidate := by
    rw [same, format.magnitudeAt_strictMono.le_iff_le]
  rcases rounds.kind with inward | outward | truncates | ⟨prefers, nearest⟩
  · exact le_antisymm ((reach pattern).mp inward.1.2) (inward.2 ⟨by omega, same.ge⟩)
  · refine le_antisymm (outward.2 ⟨finite.le, Or.inl same.le⟩) ?_
    rcases outward.1.2 with above | infinite
    · exact (reached pattern).mp above
    · exact finite.le.trans infinite.ge
  · exact le_antisymm ((reach pattern).mp truncates.1.2) (truncates.2 ⟨finite.le, same.ge⟩)
  · exact nearest.eq_of_eq finite.le same

end Rounds

end HalfPrecision.Format
