import HalfPrecision.Proofs.Binary64.Single
import HalfPrecision.Proofs.Format.Monotone

/-!
This file defines the exact value of a binary64 number, infinities included. It shows that a binary32 word is read as
the number of its value, and that each number and each rational is rounded to the nearest binary32 or binary64 pattern.
-/

namespace HalfPrecision.Binary64

theorem isNaN_iff (number : Binary64) : number.isNaN = true ↔ Format.double.exponentMask < number.magnitudeBits := by
  rw [isNaN, decide_eq_true_eq]

/-- The exact value of a number. A NaN has none. -/
def extended? (number : Binary64) : Option (WithBotTop Rat) :=
  if number.isNaN then none else some (Format.double.extended number.negative number.magnitudeBits)

theorem extended?_ofPattern (negative : Bool) {pattern : Nat} (notNaN : pattern ≤ Format.double.exponentMask) :
    (ofPattern (Format.double.signed negative pattern)).extended? = some (Format.double.extended negative pattern) := by
  have below : pattern < Format.double.signBit := notNaN.trans_lt Format.double.exponentMask_lt_signBit
  have magnitude := magnitudeBits_ofPattern negative below
  rw [extended?, if_neg, magnitude, negative_ofPattern negative below]
  rw [isNaN_iff, magnitude]
  exact notNaN.not_gt

/-- Reading a binary32 word keeps its value. -/
theorem extended?_ofSingle {word : Int} (notNaN : Format.single.magnitudeBits word ≤ Format.single.exponentMask) :
    (ofSingle word).extended? =
      some (Format.single.extended (Format.single.decode word).negative (Format.single.magnitudeBits word)) := by
  rcases lt_or_eq_of_le notNaN with finite | infinite
  · obtain ⟨image, inside, same, read⟩ := ofSingle_finite finite
    rw [read, extended?_ofPattern _ inside.le, Format.extended_congr _ inside finite same]
  · rw [ofSingle_eq, if_neg (by omega), if_pos infinite, infinity, extended?_ofPattern _ le_rfl, infinite]
    simp [Format.extended]

theorem extended?_eq_some_iff (number : Binary64) (value : WithBotTop Rat) :
    number.extended? = some value ↔
      number.magnitudeBits ≤ Format.double.exponentMask ∧
        Format.double.extended number.negative number.magnitudeBits = value := by
  unfold extended?
  split_ifs with isNaN
  · simp [((isNaN_iff number).mp isNaN).not_ge]
  · simp [not_lt.mp (mt (isNaN_iff number).mpr isNaN)]

theorem packedSingle?_infinite {number : Binary64} (infinite : number.magnitudeBits = Format.double.exponentMask) :
    number.packedSingle? = some (Format.single.signed number.negative Format.single.exponentMask) := by
  rw [magnitudeBits_eq] at infinite
  refine (Format.double.category_match number.bits.toNat _ _ _).trans ?_
  rw [if_neg (by omega), if_pos infinite]
  rfl

/-- A number that is not a NaN becomes the binary32 word of its sign that is nearest to its magnitude. -/
theorem toSingle_eq {number : Binary64} (notNaN : number.magnitudeBits ≤ Format.double.exponentMask) :
    number.toSingle =
      Format.single.signed number.negative
        (Format.single.nearest (Format.double.magnitudeAt number.magnitudeBits)) := by
  rcases notNaN.eq_or_lt with infinite | finite
  · rw [infinite, Format.single.nearest_of_overflow single_wider.overflow_le, toSingle, packedSingle?_infinite infinite]
  · obtain ⟨middle, nearest, -, single⟩ := toSingle_finite finite
    rw [single, nearest.unique (Format.single.nearest_roundsToEven (Format.double.magnitudeAt_nonneg _))]

/-- A rational denotes the number nearest to it, unless this is infinity. -/
theorem ofRat?_eq (value : Rat) :
    ofRat? value =
      if Format.double.nearest |value| = Format.double.exponentMask then none
      else some (ofPattern (Format.double.signed (decide (value < 0)) (Format.double.nearest |value|))) := by
  have below : Format.double.nearest |value| < Format.double.signBit :=
    (Format.double.nearest_roundsToEven (abs_nonneg value)).1.trans_lt Format.double.exponentMask_lt_signBit
  have magnitude := magnitudeBits_ofPattern (decide (value < 0)) below
  have absolute : value.abs = |value| := by
    rw [Rat.abs]
    split_ifs with nonnegative
    · exact (abs_of_nonneg nonnegative).symm
    · exact (abs_of_neg (not_le.mp nonnegative)).symm
  simp only [ofRat?, ofMagnitude, isInfinite, absolute, magnitude, decide_eq_true_eq]

end HalfPrecision.Binary64
