import HalfPrecision.Proofs.Format.Normalized

/-!
This file shows that the significand and the exponent that a finite pattern decodes into have the magnitude of the
pattern, for zeros, subnormal values and normal values alike.
-/

namespace HalfPrecision.Format

variable (format : Format)

/-- The pattern of a word without its sign bit. -/
def magnitudeBits (word : Int) : Nat := lowBits format.width word % format.signBit

theorem magnitudeBits_lt (word : Int) : format.magnitudeBits word < format.signBit :=
  Nat.mod_lt _ (Nat.zero_lt_of_lt format.exponentMask_lt_signBit)

theorem decode_fraction_lt (word : Int) : (format.decode word).fraction < format.significandOne :=
  Nat.mod_lt _ format.significandOne_pos

theorem decode_negative (word : Int) :
    (format.decode word).negative = decide (lowBits format.width word / format.signBit = 1) := rfl

/-- The sign is the highest bit of a word. -/
theorem decode_negative_toNat (word : Int) :
    (format.decode word).negative.toNat = lowBits format.width word / format.signBit :=
  format.toNat_div_signBit (lowBits_lt_two_pow format.width word)

theorem category_eq_nan_iff {word : Int} :
    (format.decode word).category = .nan ↔ format.exponentMask < format.magnitudeBits word := by
  change format.categoryOf (format.magnitudeBits word) = .nan ↔ _
  unfold categoryOf
  split_ifs <;> simp <;> omega

theorem category_eq_infinite_iff {word : Int} :
    (format.decode word).category = .infinite ↔ format.magnitudeBits word = format.exponentMask := by
  have inside := format.significandOne_le_exponentMask
  have positive := format.significandOne_pos
  change format.categoryOf (format.magnitudeBits word) = .infinite ↔ _
  unfold categoryOf
  split_ifs <;> simp <;> omega

theorem category_finite_iff {word : Int} :
    ((format.decode word).category ≠ .nan ∧ (format.decode word).category ≠ .infinite) ↔
      format.magnitudeBits word < format.exponentMask := by
  rw [Ne, category_eq_nan_iff, Ne, category_eq_infinite_iff]
  omega

/-- Conversions treat all finite words alike. -/
theorem category_match {result : Type} (word : Int) (isNaN infinite finite : result) :
    (match (format.decode word).category with
      | .nan => isNaN
      | .infinite => infinite
      | _ => finite) =
      if format.exponentMask < format.magnitudeBits word then isNaN
      else if format.magnitudeBits word = format.exponentMask then infinite
      else finite := by
  split
  case h_1 category => rw [if_pos (format.category_eq_nan_iff.mp category)]
  case h_2 category =>
    have large := format.category_eq_infinite_iff.mp category
    rw [if_neg (by omega), if_pos large]
  case h_3 notNaN notInfinite =>
    rw [if_neg (mt format.category_eq_nan_iff.mpr notNaN), if_neg (mt format.category_eq_infinite_iff.mpr notInfinite)]

/-- A word's low bits are its magnitude with its sign put in front. -/
theorem signed_decode (word : Int) :
    format.signed (format.decode word).negative (format.magnitudeBits word) = lowBits format.width word :=
  format.signed_div_mod (lowBits_lt_two_pow format.width word)

/-- Decoding keeps the magnitude of a finite pattern. -/
theorem leadingMagnitude_decode {word : Int} (finite : format.magnitudeBits word < format.exponentMask) :
    leadingMagnitude (format.decode word).significand (format.decode word).exponent =
      format.magnitudeAt (format.magnitudeBits word) := by
  have positive := format.significandOne_pos
  have inside := Nat.mod_lt (format.magnitudeBits word) positive
  have significand : (format.decode word).significand =
      if format.categoryOf (format.magnitudeBits word) = .normal then
        format.significandOne + format.magnitudeBits word % format.significandOne
      else format.magnitudeBits word % format.significandOne := rfl
  have exponent : (format.decode word).exponent =
      if format.categoryOf (format.magnitudeBits word) = .subnormal then
        ((format.magnitudeBits word / format.significandOne : Nat) : Int) - format.bias -
          (format.fractionWidth - bitLength (format.magnitudeBits word % format.significandOne))
      else ((format.magnitudeBits word / format.significandOne : Nat) : Int) - format.bias := rfl
  rw [significand, exponent]
  generalize format.magnitudeBits word = magnitude at finite inside
  have notNaN : ¬format.exponentMask < magnitude := by omega
  by_cases zero : magnitude = 0
  · subst zero
    simp [categoryOf, leadingMagnitude, magnitudeAt_zero]
  by_cases subnormal : magnitude / format.significandOne = 0
  · have category : format.categoryOf magnitude = .subnormal := by
      simp [categoryOf, zero, finite.ne, notNaN, subnormal]
    rw [category, if_neg (by decide), if_pos rfl, subnormal, leadingMagnitude, magnitudeAt, if_pos subnormal]
    congr 2
    push_cast
    ring
  · have category : format.categoryOf magnitude = .normal := by
      simp [categoryOf, zero, finite.ne, notNaN, subnormal]
    have length : bitLength (format.significandOne + magnitude % format.significandOne) = format.fractionWidth + 1 := by
      rw [bitLength_eq_succ_iff, ← significandOne_eq, pow_succ', ← significandOne_eq]
      omega
    rw [category, if_pos rfl, if_neg (by decide), leadingMagnitude, length, magnitudeAt, if_neg subnormal]
    congr 2
    push_cast
    ring

theorem decode_magnitude {word : Int} (finite : format.magnitudeBits word < format.exponentMask) :
    (format.decode word).magnitude = format.magnitudeAt (format.magnitudeBits word) :=
  format.leadingMagnitude_decode finite

section Signed

variable {format} (negative : Bool) {magnitude : Nat} (below : magnitude < format.signBit)

include below

theorem lowBits_signed :
    lowBits format.width (format.signed negative magnitude) = format.signed negative magnitude := by
  rw [lowBits_natCast, Nat.mod_eq_of_lt (format.signed_lt negative below)]

theorem magnitudeBits_signed : format.magnitudeBits (format.signed negative magnitude) = magnitude := by
  rw [magnitudeBits, lowBits_signed negative below, signed_mod format negative below]

theorem decode_signed_negative : (format.decode (format.signed negative magnitude)).negative = negative := by
  rw [decode_negative, lowBits_signed negative below, signed_div format negative below]
  cases negative <;> rfl

theorem valueAt_signed :
    format.valueAt (format.signed negative magnitude) =
      if negative then -format.magnitudeAt magnitude else format.magnitudeAt magnitude := by
  rw [valueAt, signed_div format negative below, signed_mod format negative below]
  cases negative <;> rfl

end Signed

/-- The value of a word is its magnitude with its sign. -/
theorem valueAt_lowBits (word : Int) :
    format.valueAt (lowBits format.width word) =
      if (format.decode word).negative then -format.magnitudeAt (format.magnitudeBits word)
      else format.magnitudeAt (format.magnitudeBits word) := by
  rw [← format.signed_decode, valueAt_signed _ (format.magnitudeBits_lt word)]

/-- Packing what a finite pattern decodes into rounds the magnitude of the pattern. -/
theorem exists_normalized_decode_rounds (source target : Format) (mode : RoundingMode) {word : Int}
    (finite : source.magnitudeBits word < source.exponentMask) :
    ∃ pattern, target.Rounds mode (source.decode word).negative
      (source.magnitudeAt (source.magnitudeBits word)) pattern ∧
      target.normalized mode (source.decode word).negative (source.decode word).significand
        (source.decode word).exponent = target.signed (source.decode word).negative pattern := by
  rw [← source.leadingMagnitude_decode finite]
  exact target.exists_normalized_rounds mode _ _ _

end HalfPrecision.Format
