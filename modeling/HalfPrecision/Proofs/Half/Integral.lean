import HalfPrecision.Proofs.Operation.Words
import HalfPrecision.Proofs.Rounding.Integral

/-!
This file shows that rounding a half gives the half of the rounded integer. The integers that halves are rounded to have
few bits, so that they are packed without rounding. Infinity is rounded like the integer at which half precision
overflows.
-/

namespace HalfPrecision.Half

/-- The magnitude of a rounded pattern is the integer that a mode rounds the magnitude of a pattern to. -/
structure RoundsIntegral (mode : RoundingMode) (negative : Bool) (pattern image : Nat) : Prop where
  inside : image ≤ Format.half.exponentMask
  exists_whole : ∃ whole : Nat, RoundsWhole mode negative (Format.half.magnitudeAt pattern) whole ∧
    Format.half.magnitudeAt image = whole

namespace RoundsIntegral

variable {mode : RoundingMode} {negative : Bool} {pattern other image otherImage : Nat}

/-- A pattern that denotes an integer is kept. -/
theorem of_integer (mode : RoundingMode) (negative : Bool) (inside : pattern ≤ Format.half.exponentMask) {integer : Nat}
    (exact : Format.half.magnitudeAt pattern = integer) : RoundsIntegral mode negative pattern pattern :=
  ⟨inside, integer, exact ▸ RoundsWhole.natCast mode negative integer, exact⟩

/-- Rounding keeps the order of patterns. -/
theorem mono (first : RoundsIntegral mode negative pattern image)
    (second : RoundsIntegral mode negative other otherImage) (ordered : pattern ≤ other) : image ≤ otherImage := by
  obtain ⟨whole, rounds, exact⟩ := first.exists_whole
  obtain ⟨otherWhole, otherRounds, otherExact⟩ := second.exists_whole
  have magnitudes := Format.half.magnitudeAt_strictMono.monotone ordered
  have wholes := rounds.mono otherRounds (Format.half.magnitudeAt_nonneg pattern) magnitudes
  rw [← Format.half.magnitudeAt_strictMono.le_iff_le, exact, otherExact]
  exact_mod_cast wholes

theorem unique (first : RoundsIntegral mode negative pattern image)
    (second : RoundsIntegral mode negative pattern otherImage) : image = otherImage :=
  le_antisymm (first.mono second le_rfl) (second.mono first le_rfl)

end RoundsIntegral

/-- Short integers are finite halves. -/
theorem exists_magnitudeAt_natCast {integer : Nat} (short : integer ≤ 1024) :
    ∃ image < Format.half.exponentMask, Format.half.magnitudeAt image = integer := by
  have one : Format.half.significandOne = 1024 := rfl
  obtain ⟨image, exact⟩ := Format.half.exists_magnitudeAt_eq (show integer < 2 * Format.half.significandOne by omega)
    (show 1 - Format.half.bias - Format.half.fractionWidth ≤ (0 : Int) by decide)
  rw [zpow_zero, mul_one] at exact
  refine ⟨image, ?_, exact⟩
  rw [← Format.half.magnitudeAt_strictMono.lt_iff_lt, Format.half.magnitudeAt_exponentMask, exact]
  calc (integer : Rat) ≤ 1024 := by exact_mod_cast short
    _ < (2 : Rat) ^ (15 + 1) := by norm_num

/-- The bits behind the point are those that a magnitude has below one. -/
theorem magnitudeAt_eq_fractionBits {word : Int} (finite : Format.half.magnitudeBits word < Format.half.exponentMask) :
    Format.half.magnitudeAt (Format.half.magnitudeBits word) =
      (Format.half.decode word).significand * (2 : Rat) ^ (-fractionBits (Format.half.decode word)) := by
  rw [← Format.half.leadingMagnitude_decode finite, leadingMagnitude, fractionBits]
  congr 2
  ring

/-- The words that are rounded are finite and not zero. -/
theorem magnitudeBits_of_isRounded {word : Int} (rounds : isRounded word) :
    0 < Format.half.magnitudeBits word ∧ Format.half.magnitudeBits word < Format.half.exponentMask := by
  obtain ⟨known, -⟩ := (isRounded_iff word).mp rounds
  have category : (Format.half.decode word).category = Format.half.categoryOf (Format.half.magnitudeBits word) := rfl
  constructor
  · apply Nat.pos_of_ne_zero
    intro zero
    rw [zero, Format.categoryOf, if_pos rfl] at category
    simp [category] at known
  · rw [← Format.category_finite_iff]
    rcases known with normal | subnormal
    · simp [normal]
    · simp [subnormal]

/-- A word that is rounded has a finite image. -/
theorem exists_toIntegral_of_isRounded (mode : RoundingMode) {word : Int} (rounds : isRounded word) :
    ∃ image < Format.half.exponentMask,
      RoundsIntegral mode (Format.half.decode word).negative (Format.half.magnitudeBits word) image ∧
      toIntegral mode word = Format.half.signed (Format.half.decode word).negative image := by
  obtain ⟨known, positive⟩ := (isRounded_iff word).mp rounds
  have finite := (magnitudeBits_of_isRounded rounds).2
  obtain ⟨whole, shifted, result⟩ := shiftRightAndRound_eq mode (Format.half.decode word).negative
    (Format.half.decode word).significand (fractionBits (Format.half.decode word))
  have short : whole ≤ 1024 := by
    have near := shifted.near
    have below := significand_lt known
    have quotient :
        shiftedDown (Format.half.decode word).significand (fractionBits (Format.half.decode word)) < 2 ^ 10 := by
      apply shiftedDown_lt
      rw [← bitLength_le_iff] at below
      omega
    omega
  obtain ⟨image, inside, exact⟩ := exists_magnitudeAt_natCast short
  obtain ⟨pattern, nearest, packed⟩ := Format.half.exists_normalized_rounds .nearestEven
    (Format.half.decode word).negative whole (bitLength whole - 1)
  have integer : leadingMagnitude whole (bitLength whole - 1) = Format.half.magnitudeAt image := by
    rw [leadingMagnitude, exact, sub_add_cancel, sub_self, zpow_zero, mul_one]
  refine ⟨image, inside, ⟨inside.le, whole, ?_, exact⟩, ?_⟩
  · rw [magnitudeAt_eq_fractionBits finite]
    exact shifted.roundsWhole
  · rw [toIntegral_of_isRounded mode rounds, result, ← nearest.eq_of_eq inside integer]
    exact packed

/-- The pattern of a word that is not rounded denotes an integer. -/
theorem exists_integer_of_not_isRounded {word : Int}
    (notNaN : Format.half.magnitudeBits word ≤ Format.half.exponentMask)
    (kept : ¬isRounded word) : ∃ integer : Nat, Format.half.magnitudeAt (Format.half.magnitudeBits word) = integer := by
  rcases notNaN.eq_or_lt with infinite | finite
  · refine ⟨2 ^ 16, ?_⟩
    rw [infinite, Format.half.magnitudeAt_exponentMask, Nat.cast_pow, Nat.cast_ofNat]
    rfl
  rw [magnitudeAt_eq_fractionBits finite]
  by_cases zero : (Format.half.decode word).significand = 0
  · exact ⟨0, by simp [zero]⟩
  have known := Format.nonzero_of_finite finite zero
  have none : fractionBits (Format.half.decode word) ≤ 0 := by
    by_contra positive
    exact kept ((isRounded_iff word).mpr ⟨known, not_le.mp positive⟩)
  refine ⟨(Format.half.decode word).significand * 2 ^ (-fractionBits (Format.half.decode word)).toNat, ?_⟩
  push_cast
  rw [← zpow_natCast, Int.toNat_of_nonneg (by omega)]

/-- Each word that is not a NaN is rounded to the image of its magnitude, with its sign. -/
theorem exists_toIntegral (mode : RoundingMode) {word : Int}
    (notNaN : Format.half.magnitudeBits word ≤ Format.half.exponentMask) :
    ∃ image, RoundsIntegral mode (Format.half.decode word).negative (Format.half.magnitudeBits word) image ∧
      (Format.half.magnitudeBits word < Format.half.exponentMask → image < Format.half.exponentMask) ∧
      toIntegral mode word = Format.half.signed (Format.half.decode word).negative image := by
  by_cases rounds : isRounded word
  · obtain ⟨image, inside, rounded, result⟩ := exists_toIntegral_of_isRounded mode rounds
    exact ⟨image, rounded, fun _ => inside, result⟩
  · obtain ⟨integer, exact⟩ := exists_integer_of_not_isRounded notNaN rounds
    refine ⟨_, RoundsIntegral.of_integer mode _ notNaN exact, id, ?_⟩
    rw [toIntegral_of_not_isRounded mode rounds, Format.half.signed_decode]
    rfl

/-- A word that denotes an integer is kept. -/
theorem toIntegral_of_integer (mode : RoundingMode) {word : Int} {integer : Nat}
    (notNaN : Format.half.magnitudeBits word ≤ Format.half.exponentMask)
    (exact : Format.half.magnitudeAt (Format.half.magnitudeBits word) = integer) :
    toIntegral mode word = lowBits Format.half.width word := by
  obtain ⟨image, rounds, -, result⟩ := exists_toIntegral mode notNaN
  rw [result, rounds.unique (RoundsIntegral.of_integer mode _ notNaN exact), Format.half.signed_decode]

/-- What rounding a word to an integral half has to give. NaNs, infinities and zeros are kept, and so are integers.
Other words become the finite half of their sign with the integer that the mode rounds their value to. -/
structure IntegralOf (mode : RoundingMode) (word : Int) (half : Nat) : Prop where
  kept : lowBits 16 word % 2 ^ 15 = 0 ∨ 0x7c00 ≤ lowBits 16 word % 2 ^ 15 → half = lowBits 16 word
  sign_eq : half / 2 ^ 15 = lowBits 16 word / 2 ^ 15
  finite : lowBits 16 word % 2 ^ 15 < 0x7c00 → half % 2 ^ 15 < 0x7c00
  rounded : lowBits 16 word % 2 ^ 15 < 0x7c00 →
    ∃ integer : Int, mode.RoundsToInteger (Format.half.valueAt (lowBits 16 word)) integer ∧
      Format.half.valueAt half = integer ∧ (integer = 0 → half % 2 ^ 15 = 0)
  exact : lowBits 16 word % 2 ^ 15 < 0x7c00 →
    ∀ integer : Int, Format.half.valueAt (lowBits 16 word) = integer → half = lowBits 16 word

/-- A NaN is kept. -/
theorem toIntegral_of_isNaN (mode : RoundingMode) {word : Int}
    (isNaN : Format.half.exponentMask < Format.half.magnitudeBits word) : toIntegral mode word = lowBits 16 word := by
  apply toIntegral_of_not_isRounded
  intro rounds
  exact isNaN.not_gt (magnitudeBits_of_isRounded rounds).2

theorem integralOf_of_isNaN (mode : RoundingMode) {word : Int}
    (isNaN : Format.half.exponentMask < Format.half.magnitudeBits word) :
    IntegralOf mode word (toIntegral mode word) := by
  have kept := toIntegral_of_isNaN mode isNaN
  have large : 0x7c00 < lowBits 16 word % 2 ^ 15 := isNaN
  exact ⟨fun _ => kept, by rw [kept], fun small => by omega, fun small => by omega, fun small => by omega⟩

theorem integralOf_toIntegral (mode : RoundingMode) (word : Int) : IntegralOf mode word (toIntegral mode word) := by
  by_cases isNaN : Format.half.exponentMask < Format.half.magnitudeBits word
  · exact integralOf_of_isNaN mode isNaN
  obtain ⟨image, rounds, finite, result⟩ := exists_toIntegral mode (not_lt.mp isNaN)
  have below : image < Format.half.signBit := rounds.inside.trans_lt Format.half.exponentMask_lt_signBit
  have low : toIntegral mode word % 2 ^ 15 = image := by
    rw [result]
    exact Format.half.signed_mod _ below
  have value : Format.half.valueAt (lowBits 16 word) = _ := Format.half.valueAt_lowBits word
  refine ⟨?_, ?_, fun small => low.trans_lt (finite small), ?_, ?_⟩
  · intro special
    apply toIntegral_of_not_isRounded
    intro rounded
    obtain ⟨positive, small⟩ := magnitudeBits_of_isRounded rounded
    rcases special with zero | large
    · exact positive.ne' zero
    · exact small.not_ge large
  · rw [result]
    exact (Format.half.signed_div _ below).trans (Format.half.decode_negative_toNat word)
  · intro small
    obtain ⟨whole, rounded, exact⟩ := rounds.exists_whole
    refine ⟨_, value ▸ rounded.roundsToInteger (Format.half.magnitudeAt_nonneg _), ?_, ?_⟩
    · rw [result, Format.valueAt_signed _ below, exact]
      cases (Format.half.decode word).negative <;> simp
    · intro zero
      have none : whole = 0 := by rw [← natAbs_withSign (Format.half.decode word).negative whole, zero, Int.natAbs_zero]
      rw [low]
      apply Format.half.magnitudeAt_strictMono.injective
      rw [exact, none, Format.half.magnitudeAt_zero, Nat.cast_zero]
  · intro _ integer same
    apply toIntegral_of_integer mode (not_lt.mp isNaN)
    have magnitude : Format.half.magnitudeAt (Format.half.magnitudeBits word) =
        |Format.half.valueAt (lowBits 16 word)| :=
      (Format.half.abs_valueAt _).symm
    rw [magnitude, same, Nat.cast_natAbs]
    exact (Int.cast_abs).symm

end HalfPrecision.Half

namespace HalfPrecision.Value

/-- A value that equals none of the five mode numbers is an unlisted mode. -/
theorem mode_unlisted {mode : Value} (comparable : mode.isSignaling = false)
    (other : ∀ number ∈ [0, 1, 2, 3, 4], mode.equal (.int number) = false) : mode.mode = .ok .unlisted := by
  have missing : [0, 1, 2, 3, 4].find? (fun number : Int => mode.equal (.int number)) = none := by
    rw [List.find?_eq_none]
    intro number inside
    rw [other number inside]
    exact Bool.false_ne_true
  rw [Value.mode, comparable, missing]
  rfl

end HalfPrecision.Value

namespace HalfPrecision.Operation

/-- Rounding a word gives the half of its rounded value in each mode, and in the mode of each named operation. -/
theorem toIntegral_rounds (word : Int) :
    (∀ (mode : Value) (known : RoundingMode), mode.mode = .ok known → ∃ half : Nat,
      toIntegral.evaluate? [.int word, mode] = some (.ok (.int half)) ∧ Half.IntegralOf known word half) ∧
    (∀ number : Int, (Value.int number).mode = .ok (RoundingMode.ofNumber number)) ∧
    (∀ mode : Value, mode.isSignaling = false → (∀ number ∈ [0, 1, 2, 3, 4], mode.equal (.int number) = false) →
      mode.mode = .ok .unlisted) ∧
    (HalfPrecision.lowBits 16 word % 2 ^ 15 = 0 ∨ 0x7c00 ≤ HalfPrecision.lowBits 16 word % 2 ^ 15 → ∀ mode : Value,
      toIntegral.evaluate? [.int word, mode] = some (.ok (.int (HalfPrecision.lowBits 16 word)))) ∧
    ∀ named ∈ [(toIntegral, RoundingMode.nearestEven), (ceil, .upward), (floor, .downward), (trunc, .towardZero),
      (rint, .nearestEven), (roundHalfAway, .nearestAway)], ∃ half : Nat,
      named.1.evaluate? [.int word] = some (.ok (.int half)) ∧ Half.IntegralOf named.2 word half := by
  refine ⟨?_, Value.mode_int, fun mode => Value.mode_unlisted, ?_, ?_⟩
  · intro mode known listed
    exact ⟨_, congrArg some (roundToIntegral_eq word listed), Half.integralOf_toIntegral known word⟩
  · intro special mode
    apply congrArg some
    apply roundToIntegral_of_not_isRounded
    intro rounds
    obtain ⟨positive, finite⟩ := Half.magnitudeBits_of_isRounded rounds
    rcases special with zero | large
    · exact positive.ne' zero
    · exact finite.not_ge large
  · intro named known
    simp only [List.mem_cons, List.not_mem_nil, or_false] at known
    rcases known with rfl | rfl | rfl | rfl | rfl | rfl
    · exact ⟨_, congrArg some (roundToIntegral_int word 0), Half.integralOf_toIntegral .nearestEven word⟩
    all_goals exact ⟨_, rfl, Half.integralOf_toIntegral _ word⟩

/-- One and a half below zero is rounded downward in the mode that equals two, and toward zero in a mode that is no
number. A NaN is kept even in a mode that cannot be compared. -/
theorem toIntegral_rounds_negative :
    (∃ half : Nat, toIntegral.evaluate? [.int (-0x4200), .float (Binary64.ofPattern 0x4000000000000000)] =
      some (.ok (.int half)) ∧ Format.half.valueAt half = -2) ∧
    (∃ half : Nat, toIntegral.evaluate? [.int (-0x4200), .text "up"] = some (.ok (.int half)) ∧
      Format.half.valueAt half = -1) ∧
    toIntegral.evaluate? [.int 0x7c01, .decimal (.nan false true 0)] = some (.ok (.int 0x7c01)) := by
  obtain ⟨modes, -, unlisted, -, -⟩ := toIntegral_rounds (-0x4200)
  have value : Format.half.valueAt (HalfPrecision.lowBits 16 (-0x4200)) = -3 / 2 := by decide +kernel
  have two : (Value.float (Binary64.ofPattern 0x4000000000000000)).mode = .ok .downward := by decide +kernel
  refine ⟨?_, ?_, (toIntegral_rounds 0x7c01).2.2.2.1 (by decide) _⟩
  · obtain ⟨half, result, integral⟩ := modes _ _ two
    obtain ⟨integer, floor, same, -⟩ := integral.rounded (by decide)
    rw [value] at floor
    have integer_eq : integer = -2 := floor.trans (by decide +kernel)
    exact ⟨half, result, by rw [same, integer_eq]; rfl⟩
  · obtain ⟨half, result, integral⟩ := modes _ _ (unlisted (.text "up") rfl (by decide))
    obtain ⟨integer, truncated, same, -⟩ := integral.rounded (by decide)
    rw [value] at truncated
    have integer_eq : integer = -1 := truncated.trans (by decide +kernel)
    exact ⟨half, result, by rw [same, integer_eq]; rfl⟩

end HalfPrecision.Operation
