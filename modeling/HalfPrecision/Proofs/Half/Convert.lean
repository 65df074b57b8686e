import HalfPrecision.Half.Convert
import HalfPrecision.Proofs.Binary64.Single

/-!
This file shows how binary32 words and binary64 numbers are rounded to half precision. Binary64 numbers are rounded
twice, which differs from one rounding only next to the midpoints of half precision values.
-/

namespace HalfPrecision.Half

theorem midpoint_zero : Format.half.midpoint 0 = (2 : Rat) ^ (-25 : Int) := Format.half.midpoint_zero_eq

theorem midpoint_largestFinite : Format.half.midpoint Format.half.largestFinite = 65520 := by
  calc Format.half.midpoint Format.half.largestFinite
      = (2 : Rat) ^ 16 - (2 : Rat) ^ (4 : Int) := Format.half.midpoint_largestFinite_eq (by decide)
    _ = 65520 := by norm_num

theorem half_wider : Format.single.Wider Format.half := ⟨by decide, by decide⟩

theorem ofSingle_eq (word : Int) :
    ofSingle word =
      if Format.single.exponentMask < Format.single.magnitudeBits word then nan
      else if Format.single.magnitudeBits word = Format.single.exponentMask then
        Format.half.signed (Format.single.decode word).negative Format.half.exponentMask
      else Format.half.normalized .nearestEven (Format.single.decode word).negative
        (Format.single.decode word).significand (Format.single.decode word).exponent :=
  Format.single.category_match word _ _ _

/-- A binary32 word that is not a NaN is rounded to the nearest half. Infinity counts as the value where binary32
overflows, which half precision overflows to as well. -/
theorem exists_ofSingle_rounds {word : Int} (notNaN : Format.single.magnitudeBits word ≤ Format.single.exponentMask) :
    ∃ pattern, Format.half.RoundsToEven (Format.single.magnitudeAt (Format.single.magnitudeBits word)) pattern ∧
      ofSingle word = Format.half.signed (Format.single.decode word).negative pattern := by
  rcases lt_or_eq_of_le notNaN with finite | infinite
  · obtain ⟨pattern, rounds, packed⟩ :=
      Format.exists_normalized_decode_rounds Format.single Format.half .nearestEven finite
    refine ⟨pattern, rounds, ?_⟩
    rw [ofSingle_eq, if_neg (by omega), if_neg (by omega), packed]
  · refine ⟨Format.half.exponentMask, Format.roundsNearest_exponentMask ?_, ?_⟩
    · rw [infinite]
      exact half_wider.overflow_le
    · rw [ofSingle_eq, if_neg (by omega), if_pos infinite]

/-- Conversion from binary32 rounds to the nearest half, and to the even one of two that are equally near. Infinity
starts at 65520, zero ends at `2 ^ -25`, and all NaNs become one. -/
theorem ofSingle_rounds (word : Int) :
    let bits := lowBits 32 word
    let value := Format.single.valueAt bits
    (0x7f800000 < bits % 2 ^ 31 → ofSingle word = 0x7e00) ∧
    (bits % 2 ^ 31 = 0x7f800000 → ofSingle word = if bits / 2 ^ 31 = 1 then 0xfc00 else 0x7c00) ∧
    (bits % 2 ^ 31 < 0x7f800000 →
      ofSingle word / 2 ^ 15 = bits / 2 ^ 31 ∧
      Format.half.RoundsToEven |value| (ofSingle word % 2 ^ 15) ∧
      (65520 ≤ |value| → ofSingle word % 2 ^ 15 = 0x7c00) ∧
      (|value| ≤ (2 : Rat) ^ (-25 : Int) → ofSingle word % 2 ^ 15 = 0) ∧
      ((2 : Rat) ^ (-25 : Int) < |value| → |value| < 65520 → ofSingle word % 2 ^ 15 < 0x7c00)) := by
  intro bits value
  have magnitude : |value| = Format.single.magnitudeAt (Format.single.magnitudeBits word) :=
    Format.single.abs_valueAt bits
  refine ⟨?_, ?_, ?_⟩
  · intro isNaN
    have known : Format.single.exponentMask < Format.single.magnitudeBits word := isNaN
    rw [ofSingle_eq, if_pos known]
    rfl
  · intro infinite
    have known : Format.single.magnitudeBits word = Format.single.exponentMask := infinite
    rw [ofSingle_eq, if_neg (by omega), if_pos known, Format.decode_negative, Format.signed]
    simp only [decide_eq_true_eq]
    rfl
  · intro finite
    have known : Format.single.magnitudeBits word ≤ Format.single.exponentMask := le_of_lt finite
    obtain ⟨pattern, nearest, result⟩ := exists_ofSingle_rounds known
    have below : pattern < 2 ^ 15 := nearest.1.trans_lt Format.half.exponentMask_lt_signBit
    have high : ofSingle word / 2 ^ 15 = bits / 2 ^ 31 := by
      rw [result]
      exact (Format.half.signed_div _ below).trans (Format.single.decode_negative_toNat word)
    have low : ofSingle word % 2 ^ 15 = pattern := by
      rw [result]
      exact Format.half.signed_mod _ below
    rw [low, magnitude]
    refine ⟨high, nearest, ?_, ?_, ?_⟩
    · intro large
      exact nearest.eq_exponentMask_iff.mpr (midpoint_largestFinite.trans_le large)
    · intro small
      exact nearest.eq_zero_iff.mpr (small.trans_eq midpoint_zero.symm)
    · intro _ less
      apply lt_of_le_of_ne nearest.1
      intro infinite
      have large := nearest.eq_exponentMask_iff.mp infinite
      rw [midpoint_largestFinite] at large
      linarith

/-- The least magnitude that becomes infinity, the largest that becomes a negative zero, and a NaN. -/
theorem ofSingle_rounds_boundaries :
    |Format.single.valueAt 0x477ff000| = 65520 ∧ ofSingle 0x477ff000 % 2 ^ 15 = 0x7c00 ∧
      |Format.single.valueAt 0xb3000000| = (2 : Rat) ^ (-25 : Int) ∧ ofSingle 0xb3000000 / 2 ^ 15 = 1 ∧
      ofSingle 0xb3000000 % 2 ^ 15 = 0 ∧ ofSingle 0xff800001 = 0x7e00 := by
  have large : |Format.single.valueAt 0x477ff000| = 65520 := by decide +kernel
  have small : |Format.single.valueAt 0xb3000000| = (2 : Rat) ^ (-25 : Int) := by decide +kernel
  have overflow := (ofSingle_rounds 0x477ff000).2.2 (by decide)
  have underflow := (ofSingle_rounds 0xb3000000).2.2 (by decide)
  have isNaN := (ofSingle_rounds 0xff800001).1 (by decide)
  exact ⟨large, overflow.2.2.1 large.ge, small, underflow.1, underflow.2.2.2.1 small.le, isNaN⟩

/-- A finite binary64 number is rounded to binary32 and then to half precision. -/
theorem exists_ofBinary64_roundsTwice {number : Binary64} (finite : number.magnitudeBits < Format.double.exponentMask) :
    ∃ middle final,
      Format.RoundsTwice Format.single Format.half (Format.double.magnitudeAt number.magnitudeBits) middle final ∧
      number.packedSingle? =
        (if middle = Format.single.exponentMask then none else some (Format.single.signed number.negative middle)) ∧
      number.toSingle = Format.single.signed number.negative middle ∧
      ofBinary64 number = Format.half.signed number.negative final := by
  obtain ⟨middle, first, packed, single⟩ := Binary64.toSingle_finite finite
  have below : middle < Format.single.signBit := first.1.trans_lt Format.single.exponentMask_lt_signBit
  have magnitude : Format.single.magnitudeBits number.toSingle = middle := by
    rw [single, Format.magnitudeBits_signed number.negative below]
  obtain ⟨final, second, result⟩ := exists_ofSingle_rounds (magnitude.trans_le first.1)
  rw [magnitude] at second
  refine ⟨middle, final, ⟨half_wider, by decide, first, second⟩, packed, single, ?_⟩
  rw [ofBinary64, result, single, Format.decode_signed_negative number.negative below]

/-- Conversion of finite binary64 numbers is faithful. Values of half precision are kept, other values go to one of the
two neighbours around them, and to the nearest one unless the binary32 number in between is moved onto a midpoint. -/
theorem ofBinary64_rounds (number : Binary64) (finite : number.magnitudeBits < Format.double.exponentMask) :
    let x := Format.double.valueAt number.bits.toNat
    let y := Format.single.valueAt number.toSingle
    let result := ofBinary64 number % 2 ^ 15
    (∃ middle, Format.single.RoundsToEven |x| middle ∧
      number.packedSingle? =
        (if middle = Format.single.exponentMask then none else some (Format.single.signed number.negative middle)) ∧
      number.toSingle = Format.single.signed number.negative middle) ∧
    ofBinary64 number / 2 ^ 15 = number.bits.toNat / 2 ^ 63 ∧
    (∀ pattern < 0x7c00, |x| = Format.half.magnitudeAt pattern → result = pattern) ∧
    ((∀ pattern < 0x7c00, |x| ≠ Format.half.magnitudeAt pattern) →
      ∃ lower < 0x7c00, Format.half.magnitudeAt lower < |x| ∧
        (lower + 1 = 0x7c00 ∨ |x| < Format.half.magnitudeAt (lower + 1)) ∧ (result = lower ∨ result = lower + 1)) ∧
    Format.half.midpoint 0x7bff = 65520 ∧
    ∃ direct, Format.half.RoundsToEven |x| direct ∧ (65520 ≤ |x| → direct = 0x7c00) ∧
      ((y = x ∨ ∀ lower < 0x7c00, |y| ≠ Format.half.midpoint lower) → result = direct) ∧
      (y ≠ x → ∀ lower < 0x7c00, |y| = Format.half.midpoint lower →
        result = if lower % 2 = 0 then lower else lower + 1) := by
  intro x y result
  obtain ⟨middle, final, twice, packed, single, half⟩ := exists_ofBinary64_roundsTwice finite
  have magnitude : |x| = Format.double.magnitudeAt number.magnitudeBits := Format.double.abs_valueAt number.bits.toNat
  have below : middle < Format.single.signBit := twice.first.1.trans_lt Format.single.exponentMask_lt_signBit
  have moved : |y| = Format.single.magnitudeAt middle := by
    rw [Format.abs_valueAt, single, Format.signed_mod _ number.negative below]
  have short : final < Format.half.signBit := twice.second.1.trans_lt Format.half.exponentMask_lt_signBit
  have low : result = final := by
    change ofBinary64 number % Format.half.signBit = final
    rw [half, Format.signed_mod _ number.negative short]
  have high : ofBinary64 number / 2 ^ 15 = number.bits.toNat / 2 ^ 63 := by
    change ofBinary64 number / Format.half.signBit = number.bits.toNat / Format.double.signBit
    rw [half, Format.signed_div _ number.negative short, number.negative_toNat]
  rw [← magnitude] at twice
  rw [low]
  have once := Format.half.nearest_roundsToEven (abs_nonneg x)
  refine ⟨⟨middle, twice.first, packed, single⟩, high, ?_, ?_, midpoint_largestFinite, _, once, ?_, ?_, ?_⟩
  · exact fun pattern inside same => twice.eq_of_eq (le_of_lt inside) same
  · intro apart
    obtain ⟨lower, inside, reached, missed, near⟩ := twice.bracket (abs_nonneg x)
    exact ⟨lower, inside, lt_of_le_of_ne reached (apart lower inside).symm, missed, near⟩
  · intro large
    exact once.eq_exponentMask_iff.mpr (midpoint_largestFinite.trans_le large)
  · rintro (kept | apart)
    · apply twice.eq_of_exact once
      rw [← moved, kept]
    · exact twice.eq_of_not_midpoint once (moved ▸ apart)
  · intro _ lower inside middle
    rw [moved] at middle
    exact twice.second.eq_of_midpoint inside middle

/-- A number just above a midpoint of halves is moved onto it by binary32, and then goes down to the even half. -/
theorem ofBinary64_above_midpoint :
    let number := Binary64.ofPattern 0x3ff0020000400000
    number.magnitudeBits < Format.double.exponentMask ∧ ofBinary64 number % 2 ^ 15 = 0x3c00 ∧
      Format.half.nearest |Format.double.valueAt number.bits.toNat| = 0x3c01 := by
  intro number
  have finite : number.magnitudeBits < Format.double.exponentMask := by decide +kernel
  obtain ⟨-, -, -, -, -, direct, -, -, -, tie⟩ := ofBinary64_rounds number finite
  have moved : Format.single.valueAt number.toSingle ≠ Format.double.valueAt number.bits.toNat := by decide +kernel
  have middle : |Format.single.valueAt number.toSingle| = Format.half.midpoint 0x3c00 := by decide +kernel
  exact ⟨finite, tie moved 0x3c00 (by decide) middle, by decide +kernel⟩

end HalfPrecision.Half
