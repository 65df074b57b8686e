import HalfPrecision.Proofs.Format.Fields

/-!
This file shows that each layout with a fraction bit and an exponent bit is an interchange format. Its masks are told by
the places of their bits, so that no two of them overlap and nothing is left between them. The patterns up to the
largest finite one denote increasing values.
-/

namespace HalfPrecision

/-- Numbers are disjoint if no place has a bit of both. -/
theorem and_eq_zero_of_testBit {first second : Nat}
    (apart : ∀ place, first.testBit place = true → ¬second.testBit place = true) : first &&& second = 0 := by
  apply Nat.eq_of_testBit_eq
  intro place
  rw [Nat.testBit_and, Nat.zero_testBit, Bool.and_eq_false_imp, ← Bool.not_eq_true]
  exact apart place

/-- The size of a value is its magnitude. -/
theorem Decoded.abs_value (decoded : Decoded) : |decoded.value| = decoded.magnitude := by
  have nonnegative : 0 ≤ decoded.magnitude := by
    unfold magnitude
    positivity
  unfold value
  split
  · rw [abs_neg, abs_of_nonneg nonnegative]
  · exact abs_of_nonneg nonnegative

namespace Format

/-- What the masks and the patterns of a layout have to be in an interchange format. The masks split the bits into a
sign, an exponent field and a fraction. The patterns without sign are finite in the order of their values, then infinite
and then NaNs, among which the quiet one has only the highest bit of the fraction. -/
structure Interchange (format : Format) : Prop where
  exponentWidth_pos : 1 ≤ format.exponentWidth
  width_eq : format.width = 1 + format.exponentWidth + format.fractionWidth
  sign_exponent : format.signBit &&& format.exponentMask = 0
  sign_fraction : format.signBit &&& format.fractionMask = 0
  exponent_fraction : format.exponentMask &&& format.fractionMask = 0
  masks_cover : format.signBit ||| format.exponentMask ||| format.fractionMask = 2 ^ format.width - 1
  exponentMask_eq : format.exponentMask = (2 ^ format.exponentWidth - 1) * 2 ^ format.fractionWidth
  bias_eq : format.bias = 2 ^ (format.exponentWidth - 1) - 1
  largestFinite_eq : format.largestFinite = format.exponentMask - 1
  finite : ∀ word : Int, lowBits format.width word &&& format.magnitudeMask ≤ format.largestFinite →
    ((format.decode word).category ≠ .nan ∧ (format.decode word).category ≠ .infinite) ∧
      |(format.decode word).value| ≤ (format.decode format.largestFinite).value
  infinite : (format.decode format.exponentMask).category = .infinite ∧
    (format.decode format.exponentMask).negative = false
  quiet : (format.decode format.quietNaN).category = .nan ∧ (format.decode format.quietNaN).negative = false ∧
    (format.decode format.quietNaN).fraction = 2 ^ (format.fractionWidth - 1)
  increasing : ∀ lower upper : Nat, lower < upper → upper ≤ format.largestFinite →
    (format.decode lower).value < (format.decode upper).value

variable (format : Format)

section Masks

/-- The sign bit is the highest one. -/
theorem testBit_signBit (place : Nat) : format.signBit.testBit place = decide (place = format.width - 1) := by
  simp [signBit_eq, Nat.testBit_two_pow, eq_comm]

/-- The bits of the fraction are the lowest ones. -/
theorem testBit_fractionMask (place : Nat) :
    format.fractionMask.testBit place = decide (place < format.fractionWidth) := by
  simp [fractionMask, significandOne_eq, Nat.testBit_two_pow_sub_one]

/-- The bits of the exponent field lie between the fraction and the sign. -/
theorem testBit_exponentMask (place : Nat) :
    format.exponentMask.testBit place = decide (format.fractionWidth ≤ place ∧ place < format.width - 1) := by
  have wide := format.width_ge
  rw [exponentMask, Nat.testBit_xor, testBit_fractionMask, magnitudeMask, signBit_eq, Nat.testBit_two_pow_sub_one]
  by_cases low : place < format.fractionWidth
  · have inside : place < format.width - 1 := by omega
    simp [low, inside, not_le.mpr low]
  · simp [low, not_lt.mp low]

theorem signBit_and_exponentMask : format.signBit &&& format.exponentMask = 0 := by
  apply and_eq_zero_of_testBit
  intro place
  rw [testBit_signBit, testBit_exponentMask, decide_eq_true_iff, decide_eq_true_iff]
  omega

theorem signBit_and_fractionMask : format.signBit &&& format.fractionMask = 0 := by
  have wide := format.width_ge
  apply and_eq_zero_of_testBit
  intro place
  rw [testBit_signBit, testBit_fractionMask, decide_eq_true_iff, decide_eq_true_iff]
  omega

theorem exponentMask_and_fractionMask : format.exponentMask &&& format.fractionMask = 0 := by
  apply and_eq_zero_of_testBit
  intro place
  rw [testBit_exponentMask, testBit_fractionMask, decide_eq_true_iff, decide_eq_true_iff]
  omega

theorem masks_or : format.signBit ||| format.exponentMask ||| format.fractionMask = 2 ^ format.width - 1 := by
  have wide := format.width_ge
  apply Nat.eq_of_testBit_eq
  intro place
  rw [Nat.testBit_or, Nat.testBit_or, testBit_signBit, testBit_exponentMask, testBit_fractionMask,
    Nat.testBit_two_pow_sub_one, ← Bool.decide_or, ← Bool.decide_or]
  apply decide_eq_decide.mpr
  omega

end Masks

/-- The quiet bit is the only one of the fraction. -/
theorem quietNaN_eq : format.quietNaN = format.exponentMask + 2 ^ (format.fractionWidth - 1) := by
  have positive := format.fractionWidth_pos
  have inside : 2 ^ (format.fractionWidth - 1) < 2 ^ format.fractionWidth :=
    Nat.pow_lt_pow_right (by decide) (by omega)
  have joined := Nat.two_pow_add_eq_or_of_lt inside (2 * format.bias + 1)
  rw [quietNaN, quietBit, Nat.one_shiftLeft, exponentMask_eq, significandOne_eq, Nat.mul_comm, joined]

section Unsigned

variable {format} {pattern : Nat} (below : pattern < format.signBit)

include below

theorem magnitudeBits_of_lt : format.magnitudeBits pattern = pattern := magnitudeBits_signed false below

theorem negative_of_lt : (format.decode pattern).negative = false := decode_signed_negative false below

end Unsigned

theorem lt_exponentMask {pattern : Nat} (finite : pattern ≤ format.largestFinite) : pattern < format.exponentMask := by
  have next := format.largestFinite_succ
  omega

/-- A finite pattern without sign denotes its magnitude. -/
theorem decode_value {pattern : Nat} (finite : pattern ≤ format.largestFinite) :
    (format.decode pattern).value = format.magnitudeAt pattern := by
  have inside := format.lt_exponentMask finite
  have below := inside.trans format.exponentMask_lt_signBit
  have magnitude := format.decode_magnitude (show format.magnitudeBits pattern < format.exponentMask by
    rwa [magnitudeBits_of_lt below])
  rw [Decoded.value, negative_of_lt below, magnitude, magnitudeBits_of_lt below]
  rfl

/-- No finite word has a larger value than the largest finite pattern. -/
theorem abs_decode_value_le {word : Int} (finite : format.magnitudeBits word ≤ format.largestFinite) :
    |(format.decode word).value| ≤ (format.decode format.largestFinite).value := by
  rw [Decoded.abs_value, format.decode_magnitude (format.lt_exponentMask finite), format.decode_value le_rfl]
  exact format.magnitudeAt_strictMono.monotone finite

theorem decode_quietNaN :
    (format.decode format.quietNaN).category = .nan ∧ (format.decode format.quietNaN).negative = false ∧
      (format.decode format.quietNaN).fraction = 2 ^ (format.fractionWidth - 1) := by
  have positive := Nat.two_pow_pos (format.fractionWidth - 1)
  have inside : 2 ^ (format.fractionWidth - 1) < format.significandOne := by
    rw [significandOne_eq]
    exact Nat.pow_lt_pow_right (by decide) (Nat.sub_lt format.fractionWidth_pos Nat.one_pos)
  have top := format.exponentMask_add
  have quiet := format.quietNaN_eq
  have below : format.quietNaN < format.signBit := by omega
  refine ⟨?_, negative_of_lt below, ?_⟩
  · rw [category_eq_nan_iff, magnitudeBits_of_lt below]
    omega
  · change format.magnitudeBits format.quietNaN % format.significandOne = _
    rw [magnitudeBits_of_lt below, quiet, exponentMask_eq, Nat.mul_comm, Nat.mul_add_mod, Nat.mod_eq_of_lt inside]

/-- Every layout is an interchange format. -/
theorem interchange : format.Interchange where
  exponentWidth_pos := by
    have wide := format.width_ge
    unfold exponentWidth
    omega
  width_eq := by
    have wide := format.width_ge
    unfold exponentWidth
    omega
  sign_exponent := format.signBit_and_exponentMask
  sign_fraction := format.signBit_and_fractionMask
  exponent_fraction := format.exponentMask_and_fractionMask
  masks_cover := format.masks_or
  exponentMask_eq := by
    rw [Format.exponentMask_eq, two_pow_exponentWidth, significandOne_eq]
    rfl
  bias_eq := by
    rw [← bias_succ, Nat.add_sub_cancel]
  largestFinite_eq := by
    rw [← largestFinite_succ, Nat.add_sub_cancel]
  finite word finite := by
    rw [and_magnitudeMask] at finite
    exact ⟨format.category_finite_iff.mpr (format.lt_exponentMask finite), format.abs_decode_value_le finite⟩
  infinite := by
    have below := format.exponentMask_lt_signBit
    exact ⟨format.category_eq_infinite_iff.mpr (magnitudeBits_of_lt below), negative_of_lt below⟩
  quiet := format.decode_quietNaN
  increasing lower upper less finite := by
    rw [format.decode_value (less.le.trans finite), format.decode_value finite]
    exact format.magnitudeAt_strictMono less

end Format

end HalfPrecision
