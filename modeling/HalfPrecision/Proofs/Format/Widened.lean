import HalfPrecision.Proofs.Format.Decoded
import HalfPrecision.Proofs.Format.Wider

/-!
This file shows that packing a decoded word into a wider format keeps its value, and that packing it back restores the
word. Both are exact, so the rounding modes do not matter.
-/

namespace HalfPrecision.Format

/-- Packing a finite word into a format that holds its magnitude gives the pattern of the magnitude. -/
theorem normalized_decode {source target : Format} {word : Int} {pattern : Nat}
    (known : source.magnitudeBits word < source.exponentMask) (finite : pattern < target.exponentMask)
    (same : target.magnitudeAt pattern = source.magnitudeAt (source.magnitudeBits word)) (mode : RoundingMode) :
    target.normalized mode (source.decode word).negative (source.decode word).significand
      (source.decode word).exponent =
      target.signed (source.decode word).negative pattern := by
  obtain ⟨rounded, rounds, packed⟩ := exists_normalized_decode_rounds source target mode known
  rw [packed, rounds.eq_of_eq finite same.symm]

/-- A finite word has one image in a wider format, and the image is packed back into the word. -/
theorem Wider.exists_image {wide narrow : Format} (wider : wide.Wider narrow) {word : Int}
    (finite : narrow.magnitudeBits word < narrow.exponentMask) :
    ∃ image < wide.exponentMask, wide.magnitudeAt image = narrow.magnitudeAt (narrow.magnitudeBits word) ∧
      ∀ mode,
        wide.normalized mode (narrow.decode word).negative (narrow.decode word).significand
          (narrow.decode word).exponent = wide.signed (narrow.decode word).negative image ∧
        narrow.normalized mode (wide.decode (wide.signed (narrow.decode word).negative image)).negative
          (wide.decode (wide.signed (narrow.decode word).negative image)).significand
          (wide.decode (wide.signed (narrow.decode word).negative image)).exponent = lowBits narrow.width word := by
  obtain ⟨image, inside, same⟩ := wider.exists_finite finite
  have below := inside.trans wide.exponentMask_lt_signBit
  have magnitude := magnitudeBits_signed (narrow.decode word).negative below
  refine ⟨image, inside, same, fun mode => ⟨normalized_decode finite inside same mode, ?_⟩⟩
  have back : narrow.magnitudeAt (narrow.magnitudeBits word) =
      wide.magnitudeAt (wide.magnitudeBits (wide.signed (narrow.decode word).negative image)) := by
    rw [magnitude, same]
  rw [normalized_decode (magnitude.trans_lt inside) finite back, decode_signed_negative _ below, signed_decode]

end HalfPrecision.Format
