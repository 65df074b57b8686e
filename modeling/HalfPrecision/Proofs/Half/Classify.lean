import HalfPrecision.Half.Classify
import HalfPrecision.Proofs.Format.Fields
import HalfPrecision.Proofs.Half.TotalOrder

/-!
This file shows that the intervals of magnitudes and the fields of a word tell the same about it. The five predicates
are the tests of the decoder, one of which each word passes, and the accessors give the fields that the decoder works
with.
-/

namespace HalfPrecision.Half

/-- What the five predicates tell about a word. -/
def flags (word : Int) : Flags := ⟨isZero word, isInfinite word, isNaN word, isSubnormal word, isNormal word⟩

/-- The magnitudes up to the largest finite one are told apart by their exponent field, which is zero below the least
normal magnitude. -/
theorem flags_eq_categoryOf (word : Int) : flags word = (Format.half.categoryOf (magnitude word)).flags := by
  have mask : Format.half.exponentMask = 0x7c00 := by decide
  have one : Format.half.significandOne = 0x400 := by decide
  unfold flags isZero isInfinite isNaN isSubnormal isNormal Format.categoryOf
  rw [mask, one]
  generalize magnitude word = magnitude
  split_ifs with zero infinite nan subnormal
  · simp [Category.flags, zero]
  · simp [Category.flags, infinite]
  · simp [Category.flags, nan]
    omega
  · simp [Category.flags]
    omega
  · simp [Category.flags]
    omega

theorem flags_eq_decoder (word : Int) : flags word = Format.half.flags word := by
  rw [flags_eq_categoryOf, Format.flags_eq_category]
  rfl

/-- The category is the one whose test is passed. -/
theorem flags_eq_category (word : Int) : flags word = (category word).flags := by
  have decoded := flags_eq_categoryOf word
  have category : category word =
      if (flags word).nan then .nan else if (flags word).infinite then .infinite else if (flags word).zero then .zero
      else if (flags word).subnormal then .subnormal else .normal := rfl
  rw [category, decoded]
  cases Format.half.categoryOf (magnitude word) <;> rfl

theorem exponent_eq_decode (word : Int) : exponent word = (Format.half.decode word).exponentField - 15 := rfl

theorem fraction_eq_decode (word : Int) : fraction word = (Format.half.decode word).fraction :=
  (Nat.mod_mod_of_dvd (pattern word) (by decide)).symm

theorem sign_eq_decode (word : Int) : sign word = if (Format.half.decode word).negative then -1 else 1 := by
  rw [sign, isNegative_eq]

/-- The parts of a word in their places. -/
theorem pattern_eq_signed (word : Int) :
    pattern word = (if (Format.half.decode word).negative then 0x8000 else 0) + magnitude word := by
  have whole := Format.half.signed_decode word
  rw [Format.signed_eq_add] at whole
  rw [pattern, ← whole]
  cases (Format.half.decode word).negative <;> rfl

theorem magnitude_eq_fields (word : Int) : (magnitude word : Int) = (exponent word + 15) * 1024 + fraction word := by
  have fields := Format.half.magnitudeBits_eq_fields word
  have one : Format.half.significandOne = 1024 := by decide
  rw [one] at fields
  rw [exponent_eq_decode, fraction_eq_decode, magnitude]
  change ((Format.half.magnitudeBits word : Nat) : Int) = _
  omega

theorem isSubnormal_eq_decode (word : Int) :
    isSubnormal word = decide ((Format.half.decode word).category = .subnormal) :=
  congrArg Flags.subnormal (flags_eq_categoryOf word)

theorem isNormal_eq_decode (word : Int) : isNormal word = decide ((Format.half.decode word).category = .normal) :=
  congrArg Flags.normal (flags_eq_categoryOf word)

/-- The decoder lowers the exponent of a subnormal word by the count of zeros in front of its fraction. -/
theorem decode_exponent (word : Int) :
    (Format.half.decode word).exponent =
      if isSubnormal word then exponent word - (10 - bitLength (fraction word)) else exponent word := by
  rw [isSubnormal_eq_decode, fraction_eq_decode]
  simp only [decide_eq_true_eq]
  rfl

/-- The decoder puts the implicit one in front of the fraction of a normal word. -/
theorem decode_significand (word : Int) :
    (Format.half.decode word).significand = if isNormal word then 1024 + fraction word else fraction word := by
  rw [isNormal_eq_decode, fraction_eq_decode]
  simp only [decide_eq_true_eq]
  rfl

theorem exponent_bounds (word : Int) : -15 ≤ exponent word ∧ exponent word ≤ 16 := by
  have below : (Format.half.decode word).exponentField < 32 := Format.half.decode_exponentField_lt word
  rw [exponent_eq_decode]
  omega

theorem sign_cases (word : Int) : sign word = -1 ∨ sign word = 1 := by
  unfold sign
  cases isNegative word <;> simp

/-- The name of a category tells which test is passed. -/
theorem name_category_iff (word : Int) :
    ((category word).name = "zero" ↔ isZero word) ∧ ((category word).name = "subnormal" ↔ isSubnormal word) ∧
      ((category word).name = "normal" ↔ isNormal word) ∧ ((category word).name = "inf" ↔ isInfinite word) ∧
      ((category word).name = "nan" ↔ isNaN word) := by
  have tests := flags_eq_category word
  simp only [flags, Category.flags, Flags.mk.injEq] at tests
  obtain ⟨zero, infinite, nan, subnormal, normal⟩ := tests
  rw [zero, infinite, nan, subnormal, normal]
  cases category word <;> decide

/-- The predicates and the decoder put each word into the same one of five classes, and the accessors give the parts of
the word that the decoder works with. -/
theorem classes_eq_decoded (word : Int) :
    let decoded := Format.half.decode word
    (flags word).all.count true = 1 ∧ flags word = (category word).flags ∧ flags word = Format.half.flags word ∧
    flags word = decoded.category.flags ∧
    (((category word).name = "zero" ↔ isZero word) ∧ ((category word).name = "subnormal" ↔ isSubnormal word) ∧
      ((category word).name = "normal" ↔ isNormal word) ∧ ((category word).name = "inf" ↔ isInfinite word) ∧
      ((category word).name = "nan" ↔ isNaN word)) ∧
    word % 2 ^ 16 = (if sign word = -1 then 0x8000 else 0) + (exponent word + 15) * 1024 + fraction word ∧
    word % 2 ^ 16 = (if decoded.negative then 0x8000 else 0) + magnitude word ∧
    (sign word = -1 ∨ sign word = 1) ∧ (-15 ≤ exponent word ∧ exponent word ≤ 16) ∧ fraction word < 1024 ∧
    decoded.exponent =
      (if isSubnormal word then exponent word - (10 - bitLength (fraction word)) else exponent word) ∧
    decoded.significand = if isNormal word then 1024 + fraction word else fraction word := by
  intro decoded
  have one : (flags word).all.count true = 1 := by
    rw [flags_eq_category]
    exact Category.count_flags _
  have whole : word % 2 ^ 16 = (if decoded.negative then 0x8000 else 0) + magnitude word := by
    rw [← pattern_natCast, pattern_eq_signed]
    push_cast
    rfl
  have parts : word % 2 ^ 16 =
      (if sign word = -1 then 0x8000 else 0) + (exponent word + 15) * 1024 + fraction word := by
    rw [whole, magnitude_eq_fields, sign_eq_decode, add_assoc]
    cases decoded.negative <;> rfl
  exact ⟨one, flags_eq_category word, flags_eq_decoder word, flags_eq_categoryOf word, name_category_iff word,
    parts, whole, sign_cases word, exponent_bounds word, Nat.mod_lt _ (by decide), decode_exponent word,
    decode_significand word⟩

end HalfPrecision.Half
