import HalfPrecision.Proofs.Half.Integral

/-!
This file shows how rounding to an integral half acts on the total order. It keeps the order of words, keeps its own
results, and commutes with a flip of the sign if the mode is mirrored. Its results lie between the floor and the
ceiling.
-/

namespace HalfPrecision.Half

namespace RoundsIntegral

variable {mode : RoundingMode} {negative : Bool} {pattern image : Nat}

/-- The mirrored mode rounds the pattern of the other sign alike. -/
theorem mirrored (rounds : RoundsIntegral mode negative pattern image) :
    RoundsIntegral mode.mirrored (!negative) pattern image := by
  obtain ⟨whole, rounded, exact⟩ := rounds.exists_whole
  exact ⟨rounds.inside, whole, rounded.mirrored, exact⟩

/-- Each mode rounds a pattern as one of the directed modes does. -/
theorem directed (rounds : RoundsIntegral mode negative pattern image) :
    RoundsIntegral .downward negative pattern image ∨ RoundsIntegral .upward negative pattern image := by
  obtain ⟨whole, rounded, exact⟩ := rounds.exists_whole
  exact rounded.directed.imp (fun down => ⟨rounds.inside, whole, down, exact⟩) fun up =>
    ⟨rounds.inside, whole, up, exact⟩

/-- A mode that never raises magnitudes of a sign gives no larger pattern. -/
theorem image_le (rounds : RoundsIntegral mode negative pattern image)
    (inward : ∀ odd fraction, ¬mode.Raises negative odd fraction) : image ≤ pattern := by
  obtain ⟨whole, rounded, exact⟩ := rounds.exists_whole
  have floor := rounded.eq_floor (Format.half.magnitudeAt_nonneg pattern) inward
  rw [← Format.half.magnitudeAt_strictMono.le_iff_le, exact]
  have below := Int.floor_le (Format.half.magnitudeAt pattern)
  rwa [← floor] at below

/-- A mode that raises all magnitudes of a sign that are no integers gives no smaller pattern. -/
theorem le_image (rounds : RoundsIntegral mode negative pattern image)
    (outward : ∀ odd fraction, 0 < fraction → mode.Raises negative odd fraction) : pattern ≤ image := by
  obtain ⟨whole, rounded, exact⟩ := rounds.exists_whole
  have ceiling := rounded.eq_ceil (Format.half.magnitudeAt_nonneg pattern) outward
  rw [← Format.half.magnitudeAt_strictMono.le_iff_le, exact]
  have above := Int.le_ceil (Format.half.magnitudeAt pattern)
  rwa [← ceiling] at above

end RoundsIntegral

/-- The place of a sign and a magnitude in the total order. -/
def totalOrderPlace (negative : Bool) (magnitude : Nat) : Int := if negative then -1 - magnitude else magnitude

section Place

variable (lower upper : Nat)

theorem totalOrderPlace_positive_le_iff : totalOrderPlace false lower ≤ totalOrderPlace false upper ↔ lower ≤ upper :=
  Int.ofNat_le

theorem totalOrderPlace_negative_le_iff : totalOrderPlace true lower ≤ totalOrderPlace true upper ↔ upper ≤ lower := by
  rw [totalOrderPlace, totalOrderPlace, if_pos rfl, if_pos rfl]
  omega

theorem totalOrderPlace_negative_lt_positive : totalOrderPlace true lower < totalOrderPlace false upper := by
  change -1 - (lower : Int) < upper
  omega

end Place

theorem totalOrderKey_signed (negative : Bool) {magnitude : Nat} (inside : magnitude ≤ Format.half.exponentMask) :
    totalOrderKey (Format.half.signed negative magnitude) = totalOrderPlace negative magnitude := by
  have below : magnitude < 0x8000 := inside.trans_lt Format.half.exponentMask_lt_signBit
  have bits : pattern (Format.half.signed negative magnitude) = Format.half.signed negative magnitude :=
    Format.half.lowBits_signed negative below
  rw [totalOrderKey_of_not_isNaN (not_isNaN_signed negative inside), bits, Format.signed_eq_add, totalOrderPlace]
  have bit : Format.half.signBit = 0x8000 := rfl
  rw [bit]
  cases negative <;> simp <;> omega

section Number

variable {word : Int} (notNaN : Format.half.magnitudeBits word ≤ Format.half.exponentMask)

include notNaN

theorem totalOrderKey_eq_place :
    totalOrderKey word = totalOrderPlace (Format.half.decode word).negative (Format.half.magnitudeBits word) := by
  rw [← totalOrderKey_signed _ notNaN, Format.half.signed_decode]
  exact (totalOrderKey_congr (pattern_pattern word)).symm

/-- The place of a rounded word is that of the image of its magnitude. -/
theorem exists_totalOrderKey_toIntegral (mode : RoundingMode) :
    ∃ image, RoundsIntegral mode (Format.half.decode word).negative (Format.half.magnitudeBits word) image ∧
      totalOrderKey (toIntegral mode word) = totalOrderPlace (Format.half.decode word).negative image := by
  obtain ⟨image, rounds, -, result⟩ := exists_toIntegral mode notNaN
  exact ⟨image, rounds, result ▸ totalOrderKey_signed _ rounds.inside⟩

end Number

theorem isNaN_toIntegral (mode : RoundingMode) (word : Int) : isNaN (toIntegral mode word) = isNaN word := by
  by_cases isNaN : isNaN word
  · rw [toIntegral_of_isNaN mode ((isNaN_iff word).mp isNaN)]
    exact isNaN_pattern word
  · have notNaN : Format.half.magnitudeBits word ≤ Format.half.exponentMask := not_lt.mp (mt (isNaN_iff word).mpr isNaN)
    obtain ⟨image, rounds, -, result⟩ := exists_toIntegral mode notNaN
    rw [result, Bool.eq_false_of_not_eq_true (not_isNaN_signed _ rounds.inside), Bool.eq_false_of_not_eq_true isNaN]

/-- Rounding keeps the total order. -/
theorem totalOrderKey_toIntegral_mono (mode : RoundingMode) {first second : Int}
    (ordered : totalOrderKey first ≤ totalOrderKey second) :
    totalOrderKey (toIntegral mode first) ≤ totalOrderKey (toIntegral mode second) := by
  by_cases last : isNaN second
  · have lastKept : isNaN (toIntegral mode second) := by rwa [isNaN_toIntegral]
    rw [totalOrderKey_of_isNaN lastKept]
    by_cases isNaN : isNaN (toIntegral mode first)
    · exact (totalOrderKey_of_isNaN isNaN).le
    · exact (totalOrderKey_lt isNaN).le
  have number : ¬isNaN first := fun isNaN => (totalOrderKey_lt_of_isNaN last isNaN).not_ge ordered
  rw [isNaN_iff, not_lt] at last number
  obtain ⟨image, rounds, place⟩ := exists_totalOrderKey_toIntegral number mode
  obtain ⟨otherImage, otherRounds, otherPlace⟩ := exists_totalOrderKey_toIntegral last mode
  rw [totalOrderKey_eq_place number, totalOrderKey_eq_place last] at ordered
  rw [place, otherPlace]
  -- Numbers of one sign are ordered by their magnitudes, and negative ones in reverse.
  cases left : (Format.half.decode first).negative <;> cases right : (Format.half.decode second).negative <;>
    rw [left] at rounds <;> rw [right] at otherRounds <;> rw [left, right] at ordered
  · rw [totalOrderPlace_positive_le_iff] at ordered ⊢
    exact rounds.mono otherRounds ordered
  · exact absurd ordered (totalOrderPlace_negative_lt_positive _ _).not_ge
  · exact (totalOrderPlace_negative_lt_positive _ _).le
  · rw [totalOrderPlace_negative_le_iff] at ordered ⊢
    exact otherRounds.mono rounds ordered

/-- A rounded word is kept in all modes. -/
theorem toIntegral_toIntegral (mode other : RoundingMode) (word : Int) :
    toIntegral other (toIntegral mode word) = toIntegral mode word := by
  by_cases notNaN : Format.half.magnitudeBits word ≤ Format.half.exponentMask
  · obtain ⟨image, rounds, -, result⟩ := exists_toIntegral mode notNaN
    obtain ⟨integer, -, exact⟩ := rounds.exists_whole
    have below := rounds.inside.trans_lt Format.half.exponentMask_lt_signBit
    have low := Format.half.magnitudeBits_signed (Format.half.decode word).negative below
    rw [result, toIntegral_of_integer other (low.trans_le rounds.inside) (low ▸ exact), Format.lowBits_signed _ below]
  · rw [not_le] at notNaN
    have kept := toIntegral_of_isNaN mode notNaN
    have low : Format.half.magnitudeBits (lowBits 16 word) = Format.half.magnitudeBits word :=
      congrArg (· % Format.half.signBit) (pattern_pattern word)
    rw [kept, toIntegral_of_isNaN other (low ▸ notNaN)]
    exact pattern_pattern word

/-- Flipping the sign keeps the magnitude. -/
theorem decode_xor_signBit (word : Int) :
    Format.half.magnitudeBits (word.xor 0x8000) = Format.half.magnitudeBits word ∧
      (Format.half.decode (word.xor 0x8000)).negative = !(Format.half.decode word).negative := by
  have below := pattern_lt word
  have flipped := pattern_xor_signBit word
  rw [xor_signBit below] at flipped
  rw [← isNegative_eq, ← isNegative_eq]
  change pattern (word.xor 0x8000) % 0x8000 = pattern word % 0x8000 ∧
    decide (0x8000 ≤ pattern (word.xor 0x8000)) = !decide (0x8000 ≤ pattern word)
  rw [flipped]
  split_ifs with small
  · simp [small]
  · simp [not_lt.mp small]
    omega

theorem signed_xor_signBit (negative : Bool) {magnitude : Nat} (below : magnitude < Format.half.signBit) :
    Format.half.signed negative magnitude ^^^ 0x8000 = Format.half.signed (!negative) magnitude := by
  have bit : Format.half.signBit = 0x8000 := rfl
  rw [xor_signBit (Format.half.signed_lt negative below), Format.signed_eq_add, Format.signed_eq_add, bit]
  rw [bit] at below
  cases negative <;> simp [below, Nat.add_comm]

/-- The mirrored mode rounds a word with the other sign to the result with the other sign. -/
theorem toIntegral_xor_signBit (mode : RoundingMode) (word : Int) :
    toIntegral mode.mirrored (word.xor 0x8000) = toIntegral mode word ^^^ 0x8000 := by
  obtain ⟨low, sign⟩ := decode_xor_signBit word
  by_cases notNaN : Format.half.magnitudeBits word ≤ Format.half.exponentMask
  · obtain ⟨image, rounds, -, result⟩ := exists_toIntegral mode notNaN
    obtain ⟨otherImage, otherRounds, -, otherResult⟩ := exists_toIntegral mode.mirrored (low.trans_le notNaN)
    rw [low, sign] at otherRounds
    have below := rounds.inside.trans_lt Format.half.exponentMask_lt_signBit
    rw [result, otherResult, sign, otherRounds.unique rounds.mirrored, signed_xor_signBit _ below]
  · rw [not_le] at notNaN
    rw [toIntegral_of_isNaN mode notNaN, toIntegral_of_isNaN mode.mirrored (low ▸ notNaN)]
    exact pattern_xor_signBit word

/-- The floor of a number does not come after it. -/
theorem totalOrderKey_floor_le {word : Int} (notNaN : ¬isNaN word) :
    totalOrderKey (floor word) ≤ totalOrderKey word := by
  rw [isNaN_iff, not_lt] at notNaN
  obtain ⟨image, rounds, place⟩ := exists_totalOrderKey_toIntegral notNaN .downward
  rw [floor, place, totalOrderKey_eq_place notNaN]
  cases sign : (Format.half.decode word).negative <;> rw [sign] at rounds
  · rw [totalOrderPlace_positive_le_iff]
    exact rounds.image_le fun _ _ raised => absurd raised.2 Bool.false_ne_true
  · rw [totalOrderPlace_negative_le_iff]
    exact rounds.le_image fun _ _ lost => ⟨lost, rfl⟩

/-- The ceiling of a number is the flipped floor of the flipped number, and does not come before it. -/
theorem totalOrderKey_le_ceil {word : Int} (notNaN : ¬isNaN word) : totalOrderKey word ≤ totalOrderKey (ceil word) := by
  have flippedNumber : ¬isNaN (word.xor 0x8000) := isNaN_xor_signBit word ▸ notNaN
  have ceilNumber : ¬isNaN (ceil word) := isNaN_toIntegral .upward word ▸ notNaN
  have flipped : (floor (word.xor 0x8000) : Int) = Int.xor (ceil word) 0x8000 :=
    congrArg Int.ofNat (toIntegral_xor_signBit .upward word)
  have below := totalOrderKey_floor_le flippedNumber
  rw [flipped, totalOrderKey_xor_signBit ceilNumber, totalOrderKey_xor_signBit notNaN] at below
  omega

/-- Each mode gives the floor or the ceiling. -/
theorem toIntegral_eq_floor_or_ceil (mode : RoundingMode) (word : Int) :
    toIntegral mode word = floor word ∨ toIntegral mode word = ceil word := by
  by_cases notNaN : Format.half.magnitudeBits word ≤ Format.half.exponentMask
  · obtain ⟨image, rounds, -, result⟩ := exists_toIntegral mode notNaN
    obtain ⟨lower, floorRounds, -, floorResult⟩ := exists_toIntegral .downward notNaN
    obtain ⟨upper, ceilRounds, -, ceilResult⟩ := exists_toIntegral .upward notNaN
    rw [floor, ceil, result, floorResult, ceilResult]
    rcases rounds.directed with down | up
    · exact Or.inl (by rw [down.unique floorRounds])
    · exact Or.inr (by rw [up.unique ceilRounds])
  · left
    rw [floor, toIntegral_of_isNaN _ (not_le.mp notNaN), toIntegral_of_isNaN _ (not_le.mp notNaN)]

end HalfPrecision.Half

namespace HalfPrecision.RoundingMode

/-- The mirrored mode has the number of the mode with the two directed modes swapped. -/
theorem mirrored_ofNumber (number : Int) : (ofNumber number).mirrored = ofNumber (Equiv.swap 2 3 number) := by
  by_cases downward : number = 2
  · subst downward
    rw [Equiv.swap_apply_left]
    rfl
  by_cases upward : number = 3
  · subst upward
    rw [Equiv.swap_apply_right]
    rfl
  rw [Equiv.swap_apply_of_ne_of_ne downward upward]
  unfold ofNumber
  split_ifs <;> rfl

end HalfPrecision.RoundingMode

namespace HalfPrecision.Half

/-- Rounding to an integral half keeps the total order, keeps its own results in all modes, and commutes with a flip of
the sign when the two directed modes are swapped. A number lies between its floor and its ceiling, and these are all
results. -/
theorem toIntegral_ordered_projection (first second : Int) :
    (∀ (mode : RoundingMode) (value : Value), value.mode = .ok mode →
      Operation.toIntegral.evaluate? [.int first, value] = some (.ok (.int (toIntegral mode first)))) ∧
    (∀ number : Int, (Value.int number).mode = .ok (RoundingMode.ofNumber number) ∧
      (RoundingMode.ofNumber number).mirrored = RoundingMode.ofNumber (Equiv.swap 2 3 number)) ∧
    Operation.compare.evaluate? [.int first, .int second] = some (.ok (.int (compare first second))) ∧
    Operation.floor.evaluate? [.int first] = some (.ok (.int (floor first))) ∧
    Operation.ceil.evaluate? [.int first] = some (.ok (.int (ceil first))) ∧
    (∀ mode : RoundingMode, compare first second ≤ 0 → compare (toIntegral mode first) (toIntegral mode second) ≤ 0) ∧
    (∀ mode other : RoundingMode, toIntegral other (toIntegral mode first) = toIntegral mode first) ∧
    (∀ mode : RoundingMode, toIntegral mode.mirrored (first.xor 0x8000) = toIntegral mode first ^^^ 0x8000) ∧
    (¬isNaN first → compare (floor first) first ≤ 0 ∧ 0 ≤ compare (ceil first) first) ∧
    ∀ mode : RoundingMode, toIntegral mode first = floor first ∨ toIntegral mode first = ceil first := by
  refine ⟨?_, ?_, rfl, rfl, rfl, ?_, ?_, ?_, ?_, ?_⟩
  · intro mode value listed
    exact congrArg some (Operation.roundToIntegral_eq first listed)
  · intro number
    exact ⟨Value.mode_int number, RoundingMode.mirrored_ofNumber number⟩
  · intro mode
    rw [compare_nonpos_iff, compare_nonpos_iff]
    exact totalOrderKey_toIntegral_mono mode
  · intro mode other
    exact toIntegral_toIntegral mode other first
  · intro mode
    exact toIntegral_xor_signBit mode first
  · intro notNaN
    rw [compare_nonpos_iff, compare_antisymm, Left.nonneg_neg_iff, compare_nonpos_iff]
    exact ⟨totalOrderKey_floor_le notNaN, totalOrderKey_le_ceil notNaN⟩
  · intro mode
    exact toIntegral_eq_floor_or_ceil mode first

/-- A half below zero has the negative zero as its ceiling, which is not above the image of the positive zero. -/
theorem toIntegral_ordered_projection_zeros :
    Operation.toIntegral.evaluate? [.int (-0x4800), .int 3] = some (.ok (.int 0x8000)) ∧
      compare (-0x4800) 0 ≤ 0 ∧ compare (toIntegral .upward (-0x4800)) (toIntegral .upward 0) ≤ 0 ∧
      compare (floor (-0x4800)) (-0x4800) ≤ 0 ∧ 0 ≤ compare (ceil (-0x4800)) (-0x4800) := by
  obtain ⟨evaluated, -, -, -, -, ordered, -, -, between, -⟩ := toIntegral_ordered_projection (-0x4800) 0
  have negativeZero : toIntegral .upward (-0x4800) = 0x8000 := by decide
  refine ⟨?_, by decide, ordered .upward (by decide), between (by decide)⟩
  rw [evaluated .upward (.int 3) (by decide), negativeZero]
  rfl

end HalfPrecision.Half
