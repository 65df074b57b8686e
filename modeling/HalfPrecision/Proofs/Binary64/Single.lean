import HalfPrecision.Binary64
import HalfPrecision.Proofs.Format.Decoded
import HalfPrecision.Proofs.Format.Nearest
import HalfPrecision.Proofs.Format.Wider

/-!
This file shows that a finite binary64 number is packed into the nearest binary32 pattern, and that each binary32 value
is a binary64 number which is packed into the same pattern again.
-/

namespace HalfPrecision.Binary64

theorem lowBits_bits (number : Binary64) : lowBits Format.double.width number.bits.toNat = number.bits.toNat := by
  have below : number.bits.toNat < 2 ^ Format.double.width := number.bits.toNat_lt
  rw [lowBits_natCast, Nat.mod_eq_of_lt below]

theorem magnitudeBits_eq (number : Binary64) :
    number.magnitudeBits = Format.double.magnitudeBits number.bits.toNat := by
  rw [Format.magnitudeBits, lowBits_bits, magnitudeBits]

theorem negative_eq (number : Binary64) : number.negative = (Format.double.decode number.bits.toNat).negative := rfl

theorem negative_toNat (number : Binary64) : number.negative.toNat = number.bits.toNat / Format.double.signBit := by
  rw [negative_eq, Format.decode_negative_toNat, lowBits_bits]

/-- A finite number is packed into the nearest pattern of binary32, unless this is infinity. -/
theorem packedSingle?_finite {number : Binary64} (finite : number.magnitudeBits < Format.double.exponentMask) :
    ∃ middle, Format.single.RoundsToEven (Format.double.magnitudeAt number.magnitudeBits) middle ∧
      number.packedSingle? =
        if middle = Format.single.exponentMask then none else some (Format.single.signed number.negative middle) := by
  rw [magnitudeBits_eq] at finite ⊢
  refine ⟨_, Format.single.nearest_roundsToEven (Format.double.magnitudeAt_nonneg _), ?_⟩
  rw [← Format.double.decode_magnitude finite]
  refine (Format.double.category_match number.bits.toNat _ _ _).trans ?_
  rw [if_neg (by omega), if_neg (by omega)]
  rfl

/-- A number that is too large to be packed has its sign read off its value. -/
theorem toSingle_finite {number : Binary64} (finite : number.magnitudeBits < Format.double.exponentMask) :
    ∃ middle, Format.single.RoundsToEven (Format.double.magnitudeAt number.magnitudeBits) middle ∧
      number.packedSingle? =
        (if middle = Format.single.exponentMask then none else some (Format.single.signed number.negative middle)) ∧
      number.toSingle = Format.single.signed number.negative middle := by
  obtain ⟨middle, nearest, packed⟩ := packedSingle?_finite finite
  refine ⟨middle, nearest, packed, ?_⟩
  unfold toSingle
  rw [packed]
  by_cases overflow : middle = Format.single.exponentMask
  · have positive : 0 < Format.double.magnitudeAt number.magnitudeBits := by
      apply lt_of_le_of_ne (Format.double.magnitudeAt_nonneg _)
      intro zero
      have none := nearest.eq_of_eq (Nat.zero_le _) (zero.symm.trans Format.single.magnitudeAt_zero.symm)
      rw [overflow] at none
      exact absurd none (by decide)
    have sign : decide (number.decoded.value < 0) = number.negative := by
      rw [magnitudeBits_eq] at finite positive
      have magnitude : number.decoded.magnitude = _ := Format.double.decode_magnitude finite
      unfold Decoded.value negative
      cases number.decoded.negative <;> simp [magnitude, positive, positive.le]
    simp only [overflow, if_true, sign]
  · simp only [overflow, if_false]

theorem single_wider : Format.double.Wider Format.single := ⟨by decide, by decide⟩

theorem toNat_ofPattern {pattern : Nat} (below : pattern < 2 ^ Format.double.width) :
    (ofPattern pattern).bits.toNat = pattern := by
  rw [ofPattern, UInt64.toNat_ofNat']
  exact Nat.mod_eq_of_lt below

section Signed

variable (negative : Bool) {pattern : Nat} (below : pattern < Format.double.signBit)

include below

theorem magnitudeBits_ofPattern : (ofPattern (Format.double.signed negative pattern)).magnitudeBits = pattern := by
  rw [magnitudeBits_eq, toNat_ofPattern (Format.double.signed_lt negative below),
    Format.magnitudeBits_signed negative below]

theorem negative_ofPattern : (ofPattern (Format.double.signed negative pattern)).negative = negative := by
  rw [negative_eq, toNat_ofPattern (Format.double.signed_lt negative below),
    Format.decode_signed_negative negative below]

end Signed

/-- The number of a finite pattern is packed by rounding the magnitude of the pattern. -/
theorem toSingle_signed (negative : Bool) {pattern : Nat} (finite : pattern < Format.double.exponentMask) :
    ∃ middle, Format.single.RoundsToEven (Format.double.magnitudeAt pattern) middle ∧
      (ofPattern (Format.double.signed negative pattern)).toSingle = Format.single.signed negative middle := by
  have below : pattern < Format.double.signBit := finite.trans Format.double.exponentMask_lt_signBit
  have magnitude := magnitudeBits_ofPattern negative below
  obtain ⟨middle, nearest, -, single⟩ := toSingle_finite (magnitude.trans_lt finite)
  rw [magnitude] at nearest
  rw [negative_ofPattern negative below] at single
  exact ⟨middle, nearest, single⟩

/-- A widened NaN is a NaN of its sign. -/
theorem magnitudeBits_widenedNaN (negative : Bool) {fraction : Nat} (short : fraction < 2 ^ 23) :
    Format.double.exponentMask < (widenedNaN negative fraction).magnitudeBits := by
  have shifted : fraction <<< 29 < 2 ^ 63 := by
    rw [Nat.shiftLeft_eq]
    omega
  have below : Format.double.quietNaN ||| fraction <<< 29 < Format.double.signBit :=
    Nat.or_lt_two_pow (n := 63) (by decide) shifted
  have quiet : Format.double.exponentMask < Format.double.quietNaN := by decide
  exact (quiet.trans_le Nat.left_le_or).trans_eq (magnitudeBits_ofPattern negative below).symm

theorem ofSingle_eq (word : Int) :
    ofSingle word =
      if Format.single.exponentMask < Format.single.magnitudeBits word then
        widenedNaN (Format.single.decode word).negative (Format.single.decode word).fraction
      else if Format.single.magnitudeBits word = Format.single.exponentMask then
        infinity (Format.single.decode word).negative
      else ofMagnitude (Format.single.decode word).negative (Format.single.decode word).magnitude :=
  Format.single.category_match word _ _ _

/-- A finite binary32 word denotes the number that has its value. -/
theorem ofSingle_finite {word : Int} (finite : Format.single.magnitudeBits word < Format.single.exponentMask) :
    ∃ image < Format.double.exponentMask,
      Format.double.magnitudeAt image = Format.single.magnitudeAt (Format.single.magnitudeBits word) ∧
      ofSingle word = ofPattern (Format.double.signed (Format.single.decode word).negative image) := by
  obtain ⟨image, inside, same⟩ := single_wider.exists_finite finite
  have nearest := Format.double.nearest_roundsToEven
    (Format.single.magnitudeAt_nonneg (Format.single.magnitudeBits word))
  have exact := nearest.eq_of_eq inside.le same.symm
  refine ⟨image, inside, same, ?_⟩
  rw [ofSingle_eq, if_neg (by omega), if_neg (by omega), ofMagnitude, Format.single.decode_magnitude finite, exact]

/-- Reading a binary32 word and packing the number again keeps the word, unless it is a NaN. -/
theorem toSingle_ofSingle {word : Int} (notNaN : Format.single.magnitudeBits word ≤ Format.single.exponentMask) :
    (ofSingle word).toSingle = lowBits Format.single.width word := by
  rcases lt_or_eq_of_le notNaN with finite | infinite
  · obtain ⟨image, inside, same, read⟩ := ofSingle_finite finite
    obtain ⟨middle, nearest, packed⟩ := toSingle_signed (Format.single.decode word).negative inside
    rw [read, packed, nearest.eq_of_eq finite.le same, Format.single.signed_decode]
  · rw [ofSingle_eq, if_neg (by omega), if_pos infinite, ← Format.single.signed_decode, infinite]
    cases (Format.single.decode word).negative <;> rfl

theorem magnitudeBits_ofSingle {word : Int} (isNaN : Format.single.exponentMask < Format.single.magnitudeBits word) :
    Format.double.exponentMask < (ofSingle word).magnitudeBits := by
  rw [ofSingle_eq, if_pos isNaN]
  exact magnitudeBits_widenedNaN _ (Format.single.decode_fraction_lt word)

theorem toSingle_nan : nan.toSingle = Format.single.quietNaN := rfl

end HalfPrecision.Binary64
