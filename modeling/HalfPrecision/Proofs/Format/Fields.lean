import HalfPrecision.Proofs.Format.Decoded

/-!
This file describes what a word decodes into by its three fields. The exponent field and the fraction tell the category,
so that of the five tests on a word exactly one is passed. Within a category the significand has a known length and the
exponent known bounds.
-/

namespace HalfPrecision

/-- What is told about a word by five tests. -/
structure Flags where
  zero : Bool
  infinite : Bool
  nan : Bool
  subnormal : Bool
  normal : Bool
deriving DecidableEq

def Flags.all (flags : Flags) : List Bool := [flags.zero, flags.infinite, flags.nan, flags.subnormal, flags.normal]

/-- The only test that a category passes. -/
def Category.flags (category : Category) : Flags :=
  ⟨category = .zero, category = .infinite, category = .nan, category = .subnormal, category = .normal⟩

theorem Category.count_flags (category : Category) : category.flags.all.count true = 1 := by
  cases category <;> decide

namespace Format

variable (format : Format)

/-- The tests of a word, each of which looks at the magnitude or the exponent field. -/
def flags (word : Int) : Flags :=
  let pattern := lowBits format.width word
  let magnitude := pattern &&& format.magnitudeMask
  let zero := magnitude == 0
  let infinite := magnitude == format.exponentMask
  let nan := decide (format.exponentMask < magnitude)
  let subnormal := (pattern &&& format.exponentMask) >>> format.fractionWidth == 0 && !zero
  ⟨zero, infinite, nan, subnormal, !(subnormal || infinite || nan || zero)⟩

/-- What a word has to be decoded into by the interchange format: the sign and the two fields of its low bits, the
category that the fields tell, whose test is the only one that the word passes, and a significand and an exponent with
the magnitude that the fields denote. -/
structure Decodes (word : Int) (decoded : Decoded) : Prop where
  pattern_eq : (decoded.pattern : Int) = word % 2 ^ format.width
  negative_eq : decoded.negative = decoded.pattern.testBit (format.width - 1)
  pattern_eq_lor : decoded.pattern =
    format.signBit * decoded.negative.toNat ||| decoded.exponentField * 2 ^ format.fractionWidth ||| decoded.fraction
  exponentField_lt : decoded.exponentField < 2 ^ format.exponentWidth
  fraction_lt : decoded.fraction < 2 ^ format.fractionWidth
  flags_eq : format.flags word = decoded.category.flags
  one_flag : (format.flags word).all.count true = 1
  zero_iff : decoded.category = .zero ↔ decoded.exponentField = 0 ∧ decoded.fraction = 0
  subnormal_iff : decoded.category = .subnormal ↔ decoded.exponentField = 0 ∧ decoded.fraction ≠ 0
  normal_iff : decoded.category = .normal ↔
    0 < decoded.exponentField ∧ decoded.exponentField < 2 ^ format.exponentWidth - 1
  infinite_iff : decoded.category = .infinite ↔
    decoded.exponentField = 2 ^ format.exponentWidth - 1 ∧ decoded.fraction = 0
  nan_iff : decoded.category = .nan ↔ decoded.exponentField = 2 ^ format.exponentWidth - 1 ∧ decoded.fraction ≠ 0
  of_normal : decoded.category = .normal →
    bitLength decoded.significand = format.fractionWidth + 1 ∧
    decoded.exponent = decoded.exponentField - (format.bias : Int) ∧
    1 - (format.bias : Int) ≤ decoded.exponent ∧ decoded.exponent ≤ format.bias ∧
    decoded.significand * (2 : Rat) ^ (decoded.exponent + 1 - bitLength decoded.significand) =
      (2 ^ format.fractionWidth + decoded.fraction : Nat) *
        (2 : Rat) ^ (decoded.exponentField - format.bias - format.fractionWidth : Int)
  of_subnormal : decoded.category = .subnormal →
    1 ≤ bitLength decoded.significand ∧ bitLength decoded.significand ≤ format.fractionWidth ∧
    decoded.exponent < 1 - (format.bias : Int) ∧
    decoded.significand * (2 : Rat) ^ (decoded.exponent + 1 - bitLength decoded.significand) =
      decoded.fraction * (2 : Rat) ^ (1 - format.bias - format.fractionWidth : Int)

theorem two_pow_exponentWidth : 2 ^ format.exponentWidth = 2 * format.bias + 2 := by
  have wide := format.width_ge
  have positive : format.exponentWidth = format.exponentWidth - 1 + 1 := by
    unfold exponentWidth
    omega
  have one := format.bias_succ
  rw [positive, pow_succ]
  omega

theorem testBit_sign (word : Int) :
    (format.decode word).negative = (lowBits format.width word).testBit (format.width - 1) := by
  have below := lowBits_lt_two_pow format.width word
  have wide := format.width_ge
  rw [decode_negative, Nat.testBit_eq_decide_div_mod_eq, ← signBit_eq]
  congr 1
  have top : lowBits format.width word / format.signBit < 2 := by
    rw [Nat.div_lt_iff_lt_mul (Nat.zero_lt_of_lt format.exponentMask_lt_signBit), two_signBit]
    exact below
  rw [Nat.mod_eq_of_lt top]

section Fields

variable (word : Int)

/-- The magnitude of a word is its exponent field in front of its fraction. -/
theorem magnitudeBits_eq_fields :
    format.magnitudeBits word =
      (format.decode word).exponentField * format.significandOne + (format.decode word).fraction := by
  rw [Nat.mul_comm]
  exact (Nat.div_add_mod (format.magnitudeBits word) format.significandOne).symm

theorem decode_exponentField_lt : (format.decode word).exponentField < 2 ^ format.exponentWidth := by
  have below := format.magnitudeBits_lt word
  rw [signBit_eq_mul, ← two_pow_exponentWidth] at below
  exact Nat.div_lt_of_lt_mul (Nat.mul_comm _ _ ▸ below)

/-- A pattern is put together from its sign, its exponent field and its fraction. -/
theorem decode_pattern_eq_lor :
    (format.decode word).pattern =
      format.signBit * (format.decode word).negative.toNat |||
        (format.decode word).exponentField * 2 ^ format.fractionWidth ||| (format.decode word).fraction := by
  have inside := format.decode_fraction_lt word
  rw [significandOne_eq] at inside
  have joined := Nat.two_pow_add_eq_or_of_lt inside (format.decode word).exponentField
  have whole := format.signed_decode word
  rw [signed_eq_lor format _ (format.magnitudeBits_lt word), magnitudeBits_eq_fields, significandOne_eq,
    Nat.mul_comm (format.decode word).exponentField, joined] at whole
  rw [Nat.or_assoc, Nat.mul_comm (format.decode word).exponentField, Nat.or_comm]
  exact whole.symm

theorem and_magnitudeMask : lowBits format.width word &&& format.magnitudeMask = format.magnitudeBits word := by
  rw [magnitudeMask, signBit_eq, Nat.and_two_pow_sub_one_eq_mod, ← signBit_eq]
  rfl

theorem and_exponentMask_shift :
    (lowBits format.width word &&& format.exponentMask) >>> format.fractionWidth =
      (format.decode word).exponentField := by
  have mask : format.exponentMask / 2 ^ format.fractionWidth = 2 ^ format.exponentWidth - 1 := by
    have positive := format.significandOne_pos
    rw [exponentMask_eq, ← significandOne_eq, Nat.mul_div_cancel _ positive, two_pow_exponentWidth]
    omega
  have field : (format.decode word).exponentField =
      lowBits format.width word % format.signBit / format.significandOne := rfl
  rw [Nat.shiftRight_and_distrib, Nat.shiftRight_eq_div_pow, Nat.shiftRight_eq_div_pow, mask,
    Nat.and_two_pow_sub_one_eq_mod, field, signBit_eq_mul, ← two_pow_exponentWidth, Nat.mul_comm,
    Nat.mod_mul_right_div_self, significandOne_eq]

/-- Each category passes its own test and no other one. -/
theorem flags_eq_category : format.flags word = (format.decode word).category.flags := by
  have category : (format.decode word).category = format.categoryOf (format.magnitudeBits word) := rfl
  have field : (format.decode word).exponentField = format.magnitudeBits word / format.significandOne := rfl
  have positive := format.significandOne_pos
  have mask := format.significandOne_le_exponentMask
  unfold flags
  dsimp only
  rw [and_magnitudeMask, and_exponentMask_shift, category, field]
  generalize format.magnitudeBits word = magnitude
  have large (above : format.exponentMask ≤ magnitude) : magnitude / format.significandOne ≠ 0 := by
    rw [Ne, Nat.div_eq_zero_iff]
    omega
  unfold categoryOf
  split_ifs with zero infinite nan subnormal
  · have finite : format.exponentMask ≠ 0 := by omega
    simp [Category.flags, zero, finite.symm]
  · subst infinite
    simp [Category.flags, zero, large le_rfl]
  · simp [Category.flags, zero, infinite, nan, large nan.le]
  · simp [Category.flags, zero, infinite, nan, subnormal]
  · simp [Category.flags, zero, infinite, nan, subnormal]

end Fields

/-- The fields tell the category of a word. -/
theorem category_eq_fields (word : Int) :
    (format.decode word).category =
      if (format.decode word).exponentField = 2 * format.bias + 1 then
        if (format.decode word).fraction = 0 then .infinite else .nan
      else if (format.decode word).exponentField = 0 then
        if (format.decode word).fraction = 0 then .zero else .subnormal
      else .normal := by
  have inside := format.decode_fraction_lt word
  have split := format.magnitudeBits_eq_fields word
  have top := format.decode_exponentField_lt word
  have mask := format.exponentMask_eq
  have positive := format.significandOne_pos
  rw [two_pow_exponentWidth] at top
  have field : format.magnitudeBits word / format.significandOne = (format.decode word).exponentField := rfl
  change format.categoryOf (format.magnitudeBits word) = _
  generalize (format.decode word).exponentField = exponentField at *
  generalize (format.decode word).fraction = fraction at *
  unfold categoryOf
  rw [field, split, mask]
  by_cases infinite : exponentField = 2 * format.bias + 1
  · subst infinite
    have nonzero : (2 * format.bias + 1) * format.significandOne ≠ 0 := by positivity
    rw [if_pos rfl, if_neg (by omega)]
    by_cases none : fraction = 0
    · rw [if_pos (by omega), if_pos none]
    · rw [if_neg (by omega), if_pos (by omega), if_neg none]
  · have finite : exponentField * format.significandOne + fraction < (2 * format.bias + 1) * format.significandOne := by
      calc exponentField * format.significandOne + fraction
          < (exponentField + 1) * format.significandOne := by
            rw [Nat.succ_mul]
            exact Nat.add_lt_add_left inside _
        _ ≤ (2 * format.bias + 1) * format.significandOne := Nat.mul_le_mul_right _ (by omega)
    rw [if_neg infinite, if_neg finite.ne, if_neg (not_lt.mpr finite.le)]
    by_cases small : exponentField = 0
    · subst small
      rw [if_pos rfl, if_pos rfl, Nat.zero_mul, Nat.zero_add]
    · have nonzero : exponentField * format.significandOne + fraction ≠ 0 := by
        have product := Nat.mul_pos (Nat.pos_of_ne_zero small) positive
        omega
      rw [if_neg nonzero, if_neg small, if_neg small]

section Category

variable {format} {word : Int}

/-- A normal word has an implicit leading bit and the exponent of its field. -/
theorem decode_normal (normal : (format.decode word).category = .normal) :
    (format.decode word).significand = format.significandOne + (format.decode word).fraction ∧
      (format.decode word).exponent = (format.decode word).exponentField - (format.bias : Int) :=
  ⟨if_pos normal, if_neg (by simp [show format.categoryOf _ = _ from normal])⟩

/-- A subnormal word has the exponent of the leading bit of its fraction. -/
theorem decode_subnormal (subnormal : (format.decode word).category = .subnormal) :
    (format.decode word).significand = (format.decode word).fraction ∧
      (format.decode word).exponent =
        (bitLength (format.decode word).fraction : Int) - format.fractionWidth - format.bias := by
  have field : (format.decode word).exponentField = 0 := by
    rw [category_eq_fields] at subnormal
    split_ifs at subnormal with _ _ zero
    exact zero
  refine ⟨if_neg (by simp [show format.categoryOf _ = _ from subnormal]), (if_pos subnormal).trans ?_⟩
  have zero : format.magnitudeBits word / format.significandOne = 0 := field
  change ((format.magnitudeBits word / format.significandOne : Nat) : Int) - format.bias -
    (format.fractionWidth - bitLength (format.decode word).fraction) = _
  rw [zero]
  push_cast
  ring

theorem bitLength_normal (normal : (format.decode word).category = .normal) :
    bitLength (format.decode word).significand = format.fractionWidth + 1 := by
  have inside := format.decode_fraction_lt word
  rw [(decode_normal normal).1, bitLength_eq_succ_iff, pow_succ', ← significandOne_eq]
  omega

theorem bitLength_subnormal (subnormal : (format.decode word).category = .subnormal) :
    1 ≤ bitLength (format.decode word).significand ∧
      bitLength (format.decode word).significand ≤ format.fractionWidth := by
  have inside := format.decode_fraction_lt word
  have nonzero : (format.decode word).fraction ≠ 0 := by
    rw [category_eq_fields] at subnormal
    split_ifs at subnormal with _ _ _ zero
    exact zero
  rw [(decode_subnormal subnormal).1, bitLength_le_iff, ← significandOne_eq]
  exact ⟨bitLength_pos (Nat.pos_of_ne_zero nonzero), inside⟩

theorem exponent_normal (normal : (format.decode word).category = .normal) :
    1 - (format.bias : Int) ≤ (format.decode word).exponent ∧ (format.decode word).exponent ≤ format.bias := by
  have top := format.decode_exponentField_lt word
  have exponent := (decode_normal normal).2
  rw [two_pow_exponentWidth] at top
  rw [category_eq_fields] at normal
  split_ifs at normal with infinite zero
  omega

theorem exponent_subnormal (subnormal : (format.decode word).category = .subnormal) :
    (format.decode word).exponent < 1 - (format.bias : Int) := by
  have short := (bitLength_subnormal subnormal).2
  rw [(decode_subnormal subnormal).1] at short
  rw [(decode_subnormal subnormal).2]
  omega

theorem significand_zero (zero : (format.decode word).category = .zero) : (format.decode word).significand = 0 := by
  have significand : (format.decode word).significand = (format.decode word).fraction :=
    if_neg (by simp [show format.categoryOf _ = _ from zero])
  rw [category_eq_fields] at zero
  split_ifs at zero with _ _ _ none
  exact significand.trans none

/-- The significand of a word fits into the format of the word. -/
theorem lostBits_decode (known : (format.decode word).category = .normal ∨ (format.decode word).category = .subnormal) :
    format.lostBits (format.decode word).significand (format.decode word).exponent = 0 := by
  unfold lostBits excess
  rw [Int.natAbs_natCast]
  rcases known with normal | subnormal
  · have lower := (exponent_normal normal).1
    rw [bitLength_normal normal, if_neg (by omega)]
    omega
  · have upper := exponent_subnormal subnormal
    rw [if_pos (by omega), (decode_subnormal subnormal).2, (decode_subnormal subnormal).1]
    omega

/-- The count of bits that a significand loses in another format is bounded by the widths of its own format. -/
theorem lostBits_decode_le (target : Format)
    (known : (format.decode word).category = .normal ∨ (format.decode word).category = .subnormal) :
    target.lostBits (format.decode word).significand (format.decode word).exponent ≤
      2 * format.fractionWidth + format.bias := by
  have wide := target.fractionWidth_pos
  unfold lostBits excess
  rw [Int.natAbs_natCast]
  rcases known with normal | subnormal
  · have lower := (exponent_normal normal).1
    have length := bitLength_normal normal
    split_ifs <;> omega
  · have length := bitLength_subnormal subnormal
    have exponent := (decode_subnormal subnormal).2
    rw [← (decode_subnormal subnormal).1] at exponent
    split_ifs <;> omega

theorem nonzero_of_finite (finite : format.magnitudeBits word < format.exponentMask)
    (nonzero : (format.decode word).significand ≠ 0) :
    (format.decode word).category = .normal ∨ (format.decode word).category = .subnormal := by
  obtain ⟨notNaN, notInfinite⟩ := format.category_finite_iff.mpr finite
  cases category : (format.decode word).category with
  | zero => exact absurd (significand_zero category) nonzero
  | subnormal => exact Or.inr rfl
  | normal => exact Or.inl rfl
  | infinite => exact absurd category notInfinite
  | nan => exact absurd category notNaN

end Category

/-- The magnitude of a finite word by its fields. -/
theorem leadingMagnitude_fields {word : Int}
    (finite : (format.decode word).category ≠ .nan ∧ (format.decode word).category ≠ .infinite) :
    leadingMagnitude (format.decode word).significand (format.decode word).exponent =
      if (format.decode word).exponentField = 0 then
        (format.decode word).fraction * (2 : Rat) ^ (1 - format.bias - format.fractionWidth : Int)
      else (2 ^ format.fractionWidth + (format.decode word).fraction : Nat) *
        (2 : Rat) ^ ((format.decode word).exponentField - format.bias - format.fractionWidth : Int) := by
  rw [format.leadingMagnitude_decode (format.category_finite_iff.mp finite), ← significandOne_eq]
  rfl

theorem decode_decodes (word : Int) : format.Decodes word (format.decode word) where
  pattern_eq := natCast_lowBits format.width word
  negative_eq := format.testBit_sign word
  pattern_eq_lor := format.decode_pattern_eq_lor word
  exponentField_lt := format.decode_exponentField_lt word
  fraction_lt := (format.decode_fraction_lt word).trans_eq format.significandOne_eq
  flags_eq := format.flags_eq_category word
  one_flag := by
    rw [flags_eq_category]
    exact Category.count_flags _
  zero_iff := by
    rw [category_eq_fields]
    split_ifs <;> simp <;> omega
  subnormal_iff := by
    rw [category_eq_fields]
    split_ifs <;> simp <;> omega
  normal_iff := by
    have top := format.decode_exponentField_lt word
    rw [two_pow_exponentWidth] at top
    rw [category_eq_fields, two_pow_exponentWidth]
    split_ifs <;> simp <;> omega
  infinite_iff := by
    rw [category_eq_fields, two_pow_exponentWidth]
    split_ifs <;> simp <;> omega
  nan_iff := by
    rw [category_eq_fields, two_pow_exponentWidth]
    split_ifs <;> simp <;> omega
  of_normal := by
    intro normal
    have known := normal
    have finite : (format.decode word).category ≠ .nan ∧ (format.decode word).category ≠ .infinite := by simp [normal]
    have magnitude := format.leadingMagnitude_fields finite
    rw [category_eq_fields] at known
    split_ifs at known with _ _ nonzero
    rw [if_neg nonzero] at magnitude
    exact ⟨bitLength_normal normal, (decode_normal normal).2, (exponent_normal normal).1, (exponent_normal normal).2,
      magnitude⟩
  of_subnormal := by
    intro subnormal
    have known := subnormal
    have finite : (format.decode word).category ≠ .nan ∧ (format.decode word).category ≠ .infinite := by
      simp [subnormal]
    have magnitude := format.leadingMagnitude_fields finite
    rw [category_eq_fields] at known
    split_ifs at known with _ _ zero
    rw [if_pos zero] at magnitude
    exact ⟨(bitLength_subnormal subnormal).1, (bitLength_subnormal subnormal).2,
      exponent_subnormal subnormal, magnitude⟩

end Format

end HalfPrecision
