import HalfPrecision.Format.Decoded
import Mathlib.Tactic

/-! This file states the masks of a format as powers of two, and how a pattern is put together from a sign and a
magnitude. -/

namespace HalfPrecision

/-- The mask of all low bits turns around the bits of a number below it. -/
private theorem two_pow_sub_one_xor {number count : Nat} (below : number < 2 ^ count) :
    (2 ^ count - 1) ^^^ number = 2 ^ count - (number + 1) := by
  apply Nat.eq_of_testBit_eq
  intro place
  rw [Nat.testBit_two_pow_sub_succ below, Nat.testBit_xor, Nat.testBit_two_pow_sub_one]
  by_cases inside : place < count
  · simp [inside]
  · have clear : number.testBit place = false :=
      Nat.testBit_lt_two_pow (lt_of_lt_of_le below (Nat.pow_le_pow_right (by decide) (Nat.le_of_not_gt inside)))
    simp [inside, clear]

/-- A number has the length of the least power of two above it. -/
theorem bitLength_le_iff (number length : Nat) : bitLength number ≤ length ↔ number < 2 ^ length := by
  unfold bitLength
  split
  case isTrue zero => simp [zero]
  case isFalse positive => rw [Nat.add_one_le_iff, Nat.log2_lt positive]

theorem lt_two_pow_bitLength (number : Nat) : number < 2 ^ bitLength number :=
  (bitLength_le_iff number _).mp le_rfl

theorem two_pow_le_of_bitLength {number length : Nat} (longer : length < bitLength number) : 2 ^ length ≤ number := by
  by_contra short
  have atMost := (bitLength_le_iff number length).mpr (Nat.lt_of_not_le short)
  omega

theorem bitLength_eq_succ_iff (number length : Nat) :
    bitLength number = length + 1 ↔ 2 ^ length ≤ number ∧ number < 2 ^ (length + 1) := by
  rw [← bitLength_le_iff, ← not_lt, ← bitLength_le_iff]
  omega

theorem bitLength_pos {number : Nat} (positive : 0 < number) : 0 < bitLength number := by
  by_contra short
  have zero := (bitLength_le_iff number 0).mp (Nat.le_of_not_gt short)
  omega

/-- The low bits of a number are its remainder. -/
theorem lowBits_natCast (length number : Nat) : lowBits length number = number % 2 ^ length := by
  rw [lowBits, Nat.one_shiftLeft, ← Int.natCast_mod, Int.toNat_natCast]

theorem lowBits_lt_two_pow (length : Nat) (word : Int) : lowBits length word < 2 ^ length := by
  simpa only [Nat.one_shiftLeft] using lowBits_lt length word

theorem natCast_lowBits (length : Nat) (word : Int) : (lowBits length word : Int) = word % 2 ^ length := by
  have nonnegative := Int.emod_nonneg word (show (2 ^ length : Int) ≠ 0 by positivity)
  rw [lowBits, Nat.one_shiftLeft, Nat.cast_pow, Nat.cast_ofNat, Int.toNat_of_nonneg nonnegative]

theorem lowBits_lowBits (length : Nat) (word : Int) : lowBits length (lowBits length word) = lowBits length word := by
  rw [lowBits_natCast, Nat.mod_eq_of_lt (lowBits_lt_two_pow length word)]

namespace Format

variable (format : Format)

theorem significandOne_eq : format.significandOne = 2 ^ format.fractionWidth := Nat.one_shiftLeft _

theorem significandOne_pos : 0 < format.significandOne := by
  rw [significandOne_eq]
  positivity

/-- There is a fraction bit, so the leading bit of a significand is not its last one. -/
theorem significandOne_even : format.significandOne % 2 = 0 := by
  have positive := format.fractionWidth_pos
  rw [significandOne_eq, show format.fractionWidth = format.fractionWidth - 1 + 1 by omega, pow_succ]
  omega

theorem signBit_eq : format.signBit = 2 ^ (format.width - 1) := Nat.one_shiftLeft _

theorem two_signBit : 2 * format.signBit = 2 ^ format.width := by
  have wide := format.width_ge
  rw [signBit_eq, ← pow_succ', show format.width - 1 + 1 = format.width by omega]

theorem bias_succ : format.bias + 1 = 2 ^ (format.exponentWidth - 1) := by
  have positive := Nat.two_pow_pos (format.exponentWidth - 1)
  rw [bias, Nat.one_shiftLeft]
  omega

/-- The sign bit stands above an exponent field of `2 * bias + 2` values. -/
theorem signBit_eq_mul : format.signBit = (2 * format.bias + 2) * format.significandOne := by
  have wide := format.width_ge
  have double : 2 * format.bias + 2 = 2 ^ format.exponentWidth := by
    rw [show 2 * format.bias + 2 = 2 * (format.bias + 1) by ring, bias_succ, ← pow_succ']
    congr 1
    unfold exponentWidth
    omega
  rw [double, signBit_eq, significandOne_eq, ← pow_add]
  congr 1
  unfold exponentWidth
  omega

theorem exponentMask_add : format.exponentMask + format.significandOne = format.signBit := by
  have inside : format.significandOne ≤ format.signBit := by
    rw [signBit_eq_mul]
    exact Nat.le_mul_of_pos_left _ (by omega)
  have positive := format.significandOne_pos
  have below : format.fractionMask < 2 ^ (format.width - 1) := by
    rw [fractionMask, ← signBit_eq]
    omega
  rw [exponentMask, magnitudeMask, signBit_eq, two_pow_sub_one_xor below, ← signBit_eq, fractionMask]
  omega

/-- The pattern of infinity has the highest exponent field and no fraction. -/
theorem exponentMask_eq : format.exponentMask = (2 * format.bias + 1) * format.significandOne := by
  have sum := format.exponentMask_add
  rw [signBit_eq_mul, show 2 * format.bias + 2 = 2 * format.bias + 1 + 1 by ring, Nat.succ_mul] at sum
  omega

theorem significandOne_le_exponentMask : format.significandOne ≤ format.exponentMask := by
  rw [exponentMask_eq]
  exact Nat.le_mul_of_pos_left _ (by omega)

theorem exponentMask_lt_signBit : format.exponentMask < format.signBit := by
  have sum := format.exponentMask_add
  have positive := format.significandOne_pos
  omega

theorem exponentMask_even : format.exponentMask % 2 = 0 := by
  rw [exponentMask_eq, Nat.mul_mod, significandOne_even, Nat.mul_zero, Nat.zero_mod]

/-- Infinity follows the largest finite pattern. -/
theorem largestFinite_succ : format.largestFinite + 1 = format.exponentMask := by
  have sum := format.exponentMask_add
  have inside := format.significandOne_le_exponentMask
  have positive := format.significandOne_pos
  have below : format.significandOne < 2 ^ (format.width - 1) := by
    rw [← signBit_eq]
    omega
  rw [largestFinite, magnitudeMask, signBit_eq, two_pow_sub_one_xor below, ← signBit_eq]
  omega

/-- A sign is put in front of a magnitude as the highest bit. -/
theorem signed_eq_lor (negative : Bool) {magnitude : Nat} (below : magnitude < format.signBit) :
    format.signed negative magnitude = magnitude ||| format.signBit * negative.toNat := by
  cases negative
  · simp [signed]
  · rw [signBit_eq] at below
    have joined := Nat.two_pow_add_eq_or_of_lt below 1
    rw [Nat.mul_one, ← signBit_eq] at joined
    rw [signed, if_pos rfl, joined, Nat.or_comm, Bool.toNat_true, Nat.mul_one]

theorem signed_eq_add (negative : Bool) (magnitude : Nat) :
    format.signed negative magnitude = format.signBit * negative.toNat + magnitude := by
  cases negative <;> simp [signed]

theorem signed_mod (negative : Bool) {magnitude : Nat} (below : magnitude < format.signBit) :
    format.signed negative magnitude % format.signBit = magnitude := by
  rw [signed_eq_add, Nat.mul_add_mod, Nat.mod_eq_of_lt below]

theorem signed_div (negative : Bool) {magnitude : Nat} (below : magnitude < format.signBit) :
    format.signed negative magnitude / format.signBit = negative.toNat := by
  have positive : 0 < format.signBit := Nat.zero_lt_of_lt below
  rw [signed_eq_add, Nat.mul_add_div positive, Nat.div_eq_of_lt below, Nat.add_zero]

theorem signed_lt (negative : Bool) {magnitude : Nat} (below : magnitude < format.signBit) :
    format.signed negative magnitude < 2 ^ format.width := by
  rw [← two_signBit, signed_eq_add]
  cases negative <;> simp <;> omega

/-- A pattern has one bit from its sign bit on. -/
theorem toNat_div_signBit {pattern : Nat} (below : pattern < 2 ^ format.width) :
    (decide (pattern / format.signBit = 1)).toNat = pattern / format.signBit := by
  rw [← two_signBit, Nat.mul_comm] at below
  have top := Nat.div_lt_of_lt_mul below
  rcases Nat.le_one_iff_eq_zero_or_eq_one.mp (Nat.le_of_lt_succ top) with zero | one
  · simp [zero]
  · simp [one]

/-- A pattern is the magnitude below its sign bit with the sign put in front. -/
theorem signed_div_mod {pattern : Nat} (below : pattern < 2 ^ format.width) :
    format.signed (decide (pattern / format.signBit = 1)) (pattern % format.signBit) = pattern := by
  rw [signed_eq_add, toNat_div_signBit format below, Nat.div_add_mod]

end Format

end HalfPrecision
