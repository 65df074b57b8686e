import HalfPrecision.Proofs.Half.TotalOrder

/-!
This file shows that conversion of real numbers to half precision keeps their order. The exact value of a number is
rounded to binary64, to binary32 and to half precision in turn. Each rounding keeps the order of values and both
infinities, so overflow in any of them is infinity in the end.
-/

namespace HalfPrecision.Value

/-- The exact value of a real number. A NaN has none. -/
def real? : Value → Option (WithBotTop Rat)
  | bool truth => some ((if truth then 1 else 0 : Rat) : WithBotTop Rat)
  | int number => some ((number : Rat) : WithBotTop Rat)
  | float number => number.extended?
  | fraction value => some (value : WithBotTop Rat)
  | _ => none

/-- A rational beyond binary64 becomes the infinity that its magnitude would be rounded to. -/
theorem singleOfRat_eq (value : Rat) :
    singleOfRat value = Format.single.signed (decide (value < 0))
      (Format.single.nearest (Format.double.magnitudeAt (Format.double.nearest |value|))) := by
  have inside : Format.double.nearest |value| ≤ Format.double.exponentMask :=
    (Format.double.nearest_roundsToEven (abs_nonneg value)).1
  have below : Format.double.nearest |value| < Format.double.signBit :=
    inside.trans_lt Format.double.exponentMask_lt_signBit
  rw [singleOfRat, Binary64.ofRat?_eq]
  by_cases overflow : Format.double.nearest |value| = Format.double.exponentMask
  · rw [if_pos overflow, overflow, Format.single.nearest_of_overflow Binary64.single_wider.overflow_le]
  · rw [if_neg overflow]
    have magnitude := Binary64.magnitudeBits_ofPattern (decide (value < 0)) below
    have sign := Binary64.negative_ofPattern (decide (value < 0)) below
    dsimp only
    rw [Binary64.toSingle_eq (magnitude.trans_le inside), magnitude, sign]

/-- A word of binary32 has the value to which a value is rounded through binary64. -/
def Narrowed (real : WithBotTop Rat) (word : Nat) : Prop :=
  ∃ negative, ∃ pattern ≤ Format.single.exponentMask, word = Format.single.signed negative pattern ∧
    Format.single.extended negative pattern = Format.single.rounded (Format.double.rounded real)

theorem narrowed_singleOfRat (value : Rat) : Narrowed value (singleOfRat value) := by
  refine ⟨_, _, ?_, singleOfRat_eq value, ?_⟩
  · exact (Format.single.nearest_roundsToEven (Format.double.magnitudeAt_nonneg _)).1
  · rw [Format.rounded_coe, Binary64.single_wider.rounded_extended]
    exact (Format.double.nearest_roundsToEven (abs_nonneg value)).1

theorem narrowed_toSingle {number : Binary64} {real : WithBotTop Rat} (known : number.extended? = some real) :
    Narrowed real number.toSingle := by
  obtain ⟨notNaN, rfl⟩ := (number.extended?_eq_some_iff real).mp known
  refine ⟨_, _, ?_, Binary64.toSingle_eq notNaN, ?_⟩
  · exact (Format.single.nearest_roundsToEven (Format.double.magnitudeAt_nonneg _)).1
  · rw [Format.double.rounded_extended _ notNaN, Binary64.single_wider.rounded_extended _ notNaN]

/-- No real number is refused. -/
theorem exists_toSingle {number : Value} {real : WithBotTop Rat} (known : number.real? = some real) :
    ∃ word, number.toSingle = .ok word ∧ Narrowed real word := by
  cases number with
  | bool truth =>
      obtain rfl := Option.some_inj.mp known
      exact ⟨_, rfl, narrowed_singleOfRat _⟩
  | int number =>
      obtain rfl := Option.some_inj.mp known
      exact ⟨_, rfl, narrowed_singleOfRat _⟩
  | fraction value =>
      obtain rfl := Option.some_inj.mp known
      exact ⟨_, rfl, narrowed_singleOfRat _⟩
  | float number => exact ⟨_, rfl, narrowed_toSingle known⟩
  | _ => exact absurd known (by simp [real?])

end HalfPrecision.Value

namespace HalfPrecision.Half

/-- The value to which a value is rounded through binary64 and binary32. -/
def rounded (value : WithBotTop Rat) : WithBotTop Rat :=
  Format.half.rounded (Format.single.rounded (Format.double.rounded value))

theorem rounded_mono : Monotone rounded :=
  Format.half.rounded_mono.comp (Format.single.rounded_mono.comp Format.double.rounded_mono)

theorem double_midpoint_largestFinite :
    Format.double.midpoint Format.double.largestFinite = (2 : Rat) ^ 1024 - 2 ^ 970 :=
  Format.double.midpoint_largestFinite_eq (by decide)

/-- A rational beyond binary64 is rounded to infinity. -/
theorem rounded_of_overflow {value : Rat} (large : (2 : Rat) ^ 1024 - 2 ^ 970 ≤ |value|) :
    rounded value = Format.half.extended (decide (value < 0)) Format.half.exponentMask := by
  have overflow : Format.double.nearest |value| = Format.double.exponentMask :=
    (Format.double.nearest_roundsToEven (abs_nonneg value)).eq_exponentMask_iff.mpr
      (double_midpoint_largestFinite.trans_le large)
  rw [rounded, Format.rounded_coe, overflow, Binary64.single_wider.rounded_extended _ le_rfl,
    Format.single.nearest_of_overflow Binary64.single_wider.overflow_le, half_wider.rounded_extended _ le_rfl,
    Format.half.nearest_of_overflow half_wider.overflow_le]

section Signed

variable (negative : Bool) {pattern : Nat}

theorem ofSingle_signed (notNaN : pattern ≤ Format.single.exponentMask) :
    ofSingle (Format.single.signed negative pattern) =
      Format.half.signed negative (Format.half.nearest (Format.single.magnitudeAt pattern)) := by
  have below : pattern < Format.single.signBit := notNaN.trans_lt Format.single.exponentMask_lt_signBit
  have magnitude := Format.magnitudeBits_signed negative below
  obtain ⟨final, nearest, result⟩ := exists_ofSingle_rounds (magnitude.trans_le notNaN)
  rw [magnitude] at nearest
  rw [result, Format.decode_signed_negative negative below,
    nearest.unique (Format.half.nearest_roundsToEven (Format.single.magnitudeAt_nonneg pattern))]

variable (notNaN : pattern ≤ Format.half.exponentMask)

include notNaN

theorem value_signed : value (Format.half.signed negative pattern) = Format.half.extended negative pattern := by
  have below : pattern < Format.half.signBit := notNaN.trans_lt Format.half.exponentMask_lt_signBit
  change Format.half.extended (Format.half.decode (Format.half.signed negative pattern)).negative
    (Format.half.magnitudeBits (Format.half.signed negative pattern)) = _
  rw [Format.decode_signed_negative negative below, Format.magnitudeBits_signed negative below]

end Signed

/-- A word with the value of infinity is its pattern. -/
theorem pattern_eq_of_infinite {word : Int} {negative : Bool} (notNaN : ¬isNaN word)
    (infinite : value word = Format.half.extended negative Format.half.exponentMask) :
    pattern word = if negative then 0xfc00 else 0x7c00 := by
  have key : orderedKey word = withSign negative Format.half.exponentMask := by
    rw [value_eq_extendedAt, Format.extended_eq_extendedAt] at infinite
    exact Format.half.extendedAt_strictMonoOn.injOn (orderedKey_mem_line notNaN)
      (Format.half.withSign_mem_line negative le_rfl) infinite
  have mask : Format.half.exponentMask = 0x7c00 := rfl
  rw [orderedKey_eq, mask] at key
  cases negative with
  | false =>
      rw [withSign_false] at key
      rw [if_neg Bool.false_ne_true]
      split_ifs at key <;> omega
  | true =>
      rw [withSign_true] at key
      rw [if_pos rfl]
      split_ifs at key <;> omega

/-- Each real number is converted to the half of its rounded value. -/
theorem exists_half {number : Value} {real : WithBotTop Rat} (known : number.real? = some real) :
    ∃ half : Nat, Operation.halfOfNumber.evaluate? [number] = some (.ok (.int half)) ∧
      pattern half = half ∧ ¬isNaN half ∧ value half = rounded real := by
  obtain ⟨word, single, negative, middle, inside, rfl, same⟩ := Value.exists_toSingle known
  have finalInside : Format.half.nearest (Format.single.magnitudeAt middle) ≤ Format.half.exponentMask :=
    (Format.half.nearest_roundsToEven (Format.single.magnitudeAt_nonneg middle)).1
  refine ⟨Format.half.signed negative (Format.half.nearest (Format.single.magnitudeAt middle)), ?_, ?_,
    not_isNaN_signed negative finalInside, ?_⟩
  · change some (number.toSingle.map fun pattern => Value.int (ofSingle pattern)) = _
    rw [single, ← ofSingle_signed negative inside]
    rfl
  · exact Format.lowBits_signed negative (finalInside.trans_lt Format.half.exponentMask_lt_signBit)
  · rw [value_signed negative finalInside, rounded, ← same, half_wider.rounded_extended negative inside]

/-- Conversion of real numbers to half precision keeps their order and never gives a NaN. -/
theorem halfOfNumber_monotone :
    (∀ value : Rat, ∃ pattern, Format.double.RoundsToEven |value| pattern ∧
      (pattern = Format.double.exponentMask ↔ (2 : Rat) ^ 1024 - 2 ^ 970 ≤ |value|) ∧
      Binary64.ofRat? value =
        if pattern = Format.double.exponentMask then none
        else some (Binary64.ofPattern (Format.double.signed (decide (value < 0)) pattern))) ∧
    (∀ number : Binary64, number.magnitudeBits < Format.double.exponentMask →
      ∃ pattern, Format.single.RoundsToEven (Format.double.magnitudeAt number.magnitudeBits) pattern ∧
        number.packedSingle? =
          if pattern = Format.single.exponentMask then none
          else some (Format.single.signed number.negative pattern)) ∧
    ∀ (number other : Value) (real otherReal : WithBotTop Rat),
      number.real? = some real → other.real? = some otherReal →
      ∃ half otherHalf : Nat,
        Operation.halfOfNumber.evaluate? [number] = some (.ok (.int half)) ∧
        Operation.halfOfNumber.evaluate? [other] = some (.ok (.int otherHalf)) ∧
        ¬isNaN half ∧
        (∀ value : Rat, real = value → (2 : Rat) ^ 1024 - 2 ^ 970 ≤ |value| →
          half = if value < 0 then 0xfc00 else 0x7c00) ∧
        (real ≤ otherReal → lessOrEqual half otherHalf) := by
  refine ⟨?_, ?_, ?_⟩
  · intro value
    have nearest := Format.double.nearest_roundsToEven (abs_nonneg value)
    refine ⟨_, nearest, ?_, Binary64.ofRat?_eq value⟩
    rw [nearest.eq_exponentMask_iff, double_midpoint_largestFinite]
  · intro number finite
    exact Binary64.packedSingle?_finite finite
  · intro number other real otherReal known otherKnown
    obtain ⟨half, evaluated, bits, notNaN, exact⟩ := exists_half known
    obtain ⟨otherHalf, otherEvaluated, -, otherNotNaN, otherExact⟩ := exists_half otherKnown
    refine ⟨half, otherHalf, evaluated, otherEvaluated, notNaN, ?_, ?_⟩
    · rintro value rfl large
      rw [rounded_of_overflow large] at exact
      rw [← bits, pattern_eq_of_infinite notNaN exact]
      simp only [decide_eq_true_eq]
    · intro ordered
      rw [lessOrEqual_iff, orderedKey_le_iff notNaN otherNotNaN, exact, otherExact]
      exact ⟨notNaN, otherNotNaN, rounded_mono ordered⟩

/-- A fraction and an integer beyond binary64, with a truth value above the one and an infinity above the other. -/
theorem halfOfNumber_monotone_infinite :
    (∃ half : Nat,
      Operation.halfOfNumber.evaluate? [.fraction (-(2 ^ 1025 + 1) / 2)] = some (.ok (.int 0xfc00)) ∧
      Operation.halfOfNumber.evaluate? [.bool true] = some (.ok (.int half)) ∧ lessOrEqual 0xfc00 half) ∧
    ∃ half : Nat,
      Operation.halfOfNumber.evaluate? [.int (2 ^ 1024)] = some (.ok (.int 0x7c00)) ∧
      Operation.halfOfNumber.evaluate? [.float (Binary64.infinity false)] = some (.ok (.int half)) ∧
      lessOrEqual 0x7c00 half := by
  have top : (Value.float (Binary64.infinity false)).real? = some ⊤ := by decide +kernel
  have low : (2 : Rat) ^ 1024 - 2 ^ 970 ≤ |-(2 ^ 1025 + 1) / 2| := by decide +kernel
  have high : (2 : Rat) ^ 1024 - 2 ^ 970 ≤ |((2 ^ 1024 : Int) : Rat)| := by decide +kernel
  constructor
  · obtain ⟨lower, half, evaluated, upper, -, infinite, ordered⟩ :=
      halfOfNumber_monotone.2.2 (.fraction (-(2 ^ 1025 + 1) / 2)) (.bool true) _ _ rfl rfl
    obtain rfl : lower = 0xfc00 := (infinite _ rfl low).trans (if_pos (by decide +kernel))
    exact ⟨half, evaluated, upper, ordered (by decide +kernel)⟩
  · obtain ⟨lower, half, evaluated, upper, -, infinite, ordered⟩ :=
      halfOfNumber_monotone.2.2 (.int (2 ^ 1024)) (.float (Binary64.infinity false)) _ _ rfl top
    obtain rfl : lower = 0x7c00 := (infinite _ rfl high).trans (if_neg (by decide +kernel))
    exact ⟨half, evaluated, upper, ordered le_top⟩

end HalfPrecision.Half
