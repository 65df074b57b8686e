import HalfPrecision.Proofs.Format.Widened
import HalfPrecision.Proofs.Half.Convert

/-!
This file shows that half precision words pass through binary32 and binary64 unchanged, with all NaNs becoming one.
-/

namespace HalfPrecision.Half

theorem toSingle_eq (word : Int) :
    toSingle word =
      if Format.half.exponentMask < Format.half.magnitudeBits word then Format.single.quietNaN
      else if Format.half.magnitudeBits word = Format.half.exponentMask then
        Format.single.signed (Format.half.decode word).negative Format.single.exponentMask
      else Format.single.normalized .nearestEven (Format.half.decode word).negative
        (Format.half.decode word).significand (Format.half.decode word).exponent :=
  Format.half.category_match word _ _ _

/-- A half that is not a NaN has a binary32 word of its sign and magnitude, from which it is read back. -/
theorem exists_toSingle {word : Int} (notNaN : Format.half.magnitudeBits word ≤ Format.half.exponentMask) :
    ∃ image ≤ Format.single.exponentMask,
      toSingle word = Format.single.signed (Format.half.decode word).negative image ∧
      (Format.half.magnitudeBits word = Format.half.exponentMask → image = Format.single.exponentMask) ∧
      (Format.half.magnitudeBits word < Format.half.exponentMask → image < Format.single.exponentMask ∧
        Format.single.magnitudeAt image = Format.half.magnitudeAt (Format.half.magnitudeBits word)) ∧
      ofSingle (toSingle word) = lowBits Format.half.width word := by
  rcases lt_or_eq_of_le notNaN with finite | infinite
  · obtain ⟨image, inside, same, packed⟩ := half_wider.exists_image finite
    obtain ⟨widened, restored⟩ := packed .nearestEven
    have single : toSingle word = Format.single.signed (Format.half.decode word).negative image := by
      rw [toSingle_eq, if_neg (by omega), if_neg (by omega), widened]
    have magnitude : Format.single.magnitudeBits (toSingle word) = image := by
      rw [single, Format.magnitudeBits_signed _ (inside.trans Format.single.exponentMask_lt_signBit)]
    have back : ofSingle (toSingle word) = lowBits Format.half.width word := by
      rw [ofSingle_eq, if_neg (by omega), if_neg (by omega), single, restored]
    exact ⟨image, inside.le, single, fun infinite => absurd infinite finite.ne, fun _ => ⟨inside, same⟩, back⟩
  · have single : toSingle word =
        Format.single.signed (Format.half.decode word).negative Format.single.exponentMask := by
      rw [toSingle_eq, if_neg (by omega), if_pos infinite]
    have below := Format.single.exponentMask_lt_signBit
    have magnitude : Format.single.magnitudeBits (toSingle word) = Format.single.exponentMask := by
      rw [single, Format.magnitudeBits_signed _ below]
    have back : ofSingle (toSingle word) = lowBits Format.half.width word := by
      rw [ofSingle_eq, if_neg (by omega), if_pos magnitude, single, Format.decode_signed_negative _ below, ← infinite,
        Format.half.signed_decode]
    exact ⟨_, le_rfl, single, fun _ => rfl, fun finite => absurd infinite finite.ne, back⟩

/-- Reading the binary64 number of a half goes through its binary32 word unchanged. -/
theorem ofBinary64_toBinary64 {word : Int} (notNaN : Format.half.magnitudeBits word ≤ Format.half.exponentMask) :
    ofBinary64 (toBinary64 word) = ofSingle (toSingle word) := by
  obtain ⟨image, inside, single, -⟩ := exists_toSingle notNaN
  have below : image < Format.single.signBit := inside.trans_lt Format.single.exponentMask_lt_signBit
  have magnitude : Format.single.magnitudeBits (toSingle word) = image := by
    rw [single, Format.magnitudeBits_signed _ below]
  rw [ofBinary64, toBinary64, Binary64.toSingle_ofSingle (magnitude.trans_le inside), single,
    Format.lowBits_signed _ below]

/-- Widening is exact in all modes, and narrowing undoes it. -/
theorem widened_narrowed :
    (∀ (narrow wide : Format) (word : Int) (forth back : RoundingMode),
      narrow.fractionWidth ≤ wide.fractionWidth → narrow.bias ≤ wide.bias →
      (narrow.decode word).category ≠ .nan → (narrow.decode word).category ≠ .infinite →
      let decoded := narrow.decode word
      let image := wide.normalized forth decoded.negative decoded.significand decoded.exponent
      let again := wide.decode image
      image < 2 ^ wide.width ∧ image % wide.signBit < wide.exponentMask ∧
      image / wide.signBit = lowBits narrow.width word / narrow.signBit ∧
      wide.valueAt image = narrow.valueAt (lowBits narrow.width word) ∧
      narrow.normalized back again.negative again.significand again.exponent = lowBits narrow.width word) ∧
    (∀ word : Int, lowBits 16 word % 2 ^ 15 ≤ 0x7c00 →
      toSingle word / 2 ^ 31 = lowBits 16 word / 2 ^ 15 ∧
      (lowBits 16 word % 2 ^ 15 = 0x7c00 → toSingle word % 2 ^ 31 = 0x7f800000) ∧
      (lowBits 16 word % 2 ^ 15 < 0x7c00 → toSingle word % 2 ^ 31 < 0x7f800000 ∧
        Format.single.valueAt (toSingle word) = Format.half.valueAt (lowBits 16 word)) ∧
      ofSingle (toSingle word) = lowBits 16 word ∧ ofBinary64 (toBinary64 word) = lowBits 16 word) ∧
    ∀ word : Int, 0x7c00 < lowBits 16 word % 2 ^ 15 →
      ofSingle (toSingle word) = 0x7e00 ∧ ofBinary64 (toBinary64 word) = 0x7e00 := by
  refine ⟨?_, ?_, ?_⟩
  · intro narrow wide word forth back fractions biases notNaN notInfinite
    have finite := narrow.category_finite_iff.mp ⟨notNaN, notInfinite⟩
    obtain ⟨image, inside, same, packed⟩ := Format.Wider.exists_image ⟨fractions, biases⟩ finite
    have below := inside.trans wide.exponentMask_lt_signBit
    dsimp only
    rw [(packed forth).1]
    refine ⟨wide.signed_lt _ below, ?_, ?_, ?_, (packed back).2⟩
    · rwa [wide.signed_mod _ below]
    · rw [wide.signed_div _ below, narrow.decode_negative_toNat]
    · rw [Format.valueAt_signed _ below, narrow.valueAt_lowBits, same]
  · intro word notNaN
    have known : Format.half.magnitudeBits word ≤ Format.half.exponentMask := notNaN
    obtain ⟨image, inside, single, infinite, finite, back⟩ := exists_toSingle known
    have below : image < Format.single.signBit := inside.trans_lt Format.single.exponentMask_lt_signBit
    have high : toSingle word / 2 ^ 31 = lowBits 16 word / 2 ^ 15 := by
      rw [single]
      exact (Format.single.signed_div _ below).trans (Format.half.decode_negative_toNat word)
    have low : toSingle word % 2 ^ 31 = image := by
      rw [single]
      exact Format.single.signed_mod _ below
    rw [low]
    refine ⟨high, infinite, fun small => ⟨(finite small).1, ?_⟩, back, (ofBinary64_toBinary64 known).trans back⟩
    have value := Format.half.valueAt_lowBits word
    rw [single, Format.valueAt_signed _ below, (finite small).2]
    exact value.symm
  · intro word isNaN
    have known : Format.half.exponentMask < Format.half.magnitudeBits word := isNaN
    have single : toSingle word = Format.single.quietNaN := by rw [toSingle_eq, if_pos known]
    have number : toBinary64 word = Binary64.nan := by
      rw [toBinary64, single]
      decide +kernel
    rw [ofBinary64, number, Binary64.toSingle_nan, single]
    decide +kernel

/-- The smallest subnormal half is a normal binary32 value. -/
theorem widened_narrowed_subnormal :
    Format.single.normalized .upward true 1 (-24) % Format.single.signBit < Format.single.exponentMask ∧
      ofSingle (toSingle 0x8001) = 0x8001 ∧ ofBinary64 (toBinary64 0x7c00) = 0x7c00 ∧
        ofSingle (toSingle 0x7c01) = 0x7e00 := by
  have widened := widened_narrowed.1 Format.half Format.single 0x8001 .upward .downward
    (by decide) (by decide) (by decide) (by decide)
  have subnormal := widened_narrowed.2.1 0x8001 (by decide)
  have infinity := widened_narrowed.2.1 0x7c00 (by decide)
  have isNaN := widened_narrowed.2.2 0x7c01 (by decide)
  exact ⟨widened.2.1, subnormal.2.2.2.1, infinity.2.2.2.2, isNaN.1⟩

end HalfPrecision.Half
