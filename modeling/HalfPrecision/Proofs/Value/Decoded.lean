import HalfPrecision.Proofs.Format.Fields
import HalfPrecision.Proofs.Format.Widened
import HalfPrecision.Proofs.Value.Packing

/-!
This file shows that a decoded word stands for the value that its fields give it, and that packing restores the word.
The significand of a decoded word fits into its format, so packing neither fails nor rounds.
-/

namespace HalfPrecision.Value

/-- Truth values are signs like the integers that they are. -/
theorem normalized_bool (format : Format) (significand exponent number : Int) (negative : Bool) :
    Value.normalized format (int significand) (int exponent) (bool negative) (int number) =
      Value.normalized format (int significand) (int exponent) (int negative.toNat) (int number) := by
  cases negative <;> rfl

/-- Packing what a finite word decodes into restores the word, whatever the number of the mode. -/
theorem normalized_decode_self (format : Format) {word : Int} (finite : format.magnitudeBits word < format.exponentMask)
    (number : Int) :
    Value.normalized format (int (format.decode word).significand) (int (format.decode word).exponent)
      (bool (format.decode word).negative) (int number) = .ok (format.decode word).pattern := by
  have restored := Format.normalized_decode finite finite rfl (RoundingMode.ofNumber number)
  have kept : ¬(((format.decode word).significand : Int) ≠ 0 ∧
      (maxShift : Int) < format.lostBits (format.decode word).significand (format.decode word).exponent - 1) := by
    rintro ⟨nonzero, large⟩
    have known := Format.nonzero_of_finite finite (by exact_mod_cast nonzero)
    rw [Format.lostBits_decode known] at large
    exact absurd large (by decide)
  rw [normalized_bool, normalized_int, if_neg kept, restored, format.signed_decode]
  rfl

/-- In every format, each word decodes into the value of its fields. Packing restores every finite word in all modes. -/
theorem decoded_restored (format : Format) (word : Int) :
    ∃ decoded, Value.decoded format (int word) = .ok decoded ∧ format.Decodes word decoded ∧
      (decoded.category ≠ .nan → decoded.category ≠ .infinite → ∀ number : Int,
        Value.normalized format (int decoded.significand) (int decoded.exponent) (bool decoded.negative)
          (int number) = .ok decoded.pattern) :=
  ⟨format.decode word, rfl, format.decode_decodes word, fun notNaN notInfinite number =>
    normalized_decode_self format (format.category_finite_iff.mp ⟨notNaN, notInfinite⟩) number⟩

/-- The only subnormal value of the smallest format, which has no normal ones, and a negative zero of half precision. -/
theorem decoded_restored_smallest :
    (∃ decoded, Value.decoded ⟨3, 1, by decide, by decide⟩ (int (-3)) = .ok decoded ∧
      decoded.category = .subnormal ∧
      Value.normalized ⟨3, 1, by decide, by decide⟩ (int decoded.significand) (int decoded.exponent)
        (bool decoded.negative) (int 3) = .ok 5) ∧
    Value.normalized Format.half (int 0) (int (-15)) (bool true) (int 7) = .ok 0x8000 := by
  obtain ⟨decoded, known, -, restored⟩ := decoded_restored ⟨3, 1, by decide, by decide⟩ (-3)
  obtain ⟨zero, zeroKnown, -, zeroRestored⟩ := decoded_restored Format.half 0x18000
  obtain rfl := Except.ok.inj known
  obtain rfl := Except.ok.inj zeroKnown
  exact ⟨⟨_, known, by decide, restored (by decide) (by decide) 3⟩, zeroRestored (by decide) (by decide) 7⟩

end HalfPrecision.Value
