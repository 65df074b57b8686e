import HalfPrecision.Half.Integral
import HalfPrecision.Proofs.Half.Widened
import HalfPrecision.Proofs.Value.Decoded
import HalfPrecision.Proofs.Value.Shift

/-!
This file shows that the steps of conversions and roundings of words never fail. Decoded significands are short, so all
masks of lost bits can be made, and no shift count is negative.
-/

namespace HalfPrecision

/-- Packing a decoded word into another format never fails, as both formats are narrow. -/
theorem Value.normalized_decode_int (source target : Format) {word : Int}
    (finite : source.magnitudeBits word < source.exponentMask)
    (narrow : ((2 * source.fractionWidth + source.bias : Nat) : Int) ≤ maxShift) (number : Int) :
    Value.normalized target (int (source.decode word).significand) (int (source.decode word).exponent)
      (bool (source.decode word).negative) (int number) =
      .ok (target.normalized (RoundingMode.ofNumber number) (source.decode word).negative
        (source.decode word).significand (source.decode word).exponent) := by
  rw [normalized_bool, normalized_int, if_neg]
  rintro ⟨nonzero, large⟩
  have known := Format.nonzero_of_finite finite (by exact_mod_cast nonzero)
  have short := Format.lostBits_decode_le target known
  push_cast at narrow
  omega

namespace Half

theorem normalized_ofSingle {word : Int} (finite : Format.single.magnitudeBits word < Format.single.exponentMask) :
    Value.normalized Format.half (.int (Format.single.decode word).significand)
      (.int (Format.single.decode word).exponent) (.bool (Format.single.decode word).negative) (.int 0) =
      .ok (ofSingle word) := by
  rw [Value.normalized_decode_int _ _ finite (by decide), ofSingle_eq, if_neg (by omega), if_neg (by omega)]
  rfl

theorem normalized_toSingle {word : Int} (finite : Format.half.magnitudeBits word < Format.half.exponentMask) :
    Value.normalized Format.single (.int (Format.half.decode word).significand)
      (.int (Format.half.decode word).exponent) (.bool (Format.half.decode word).negative) (.int 0) =
      .ok (toSingle word) := by
  rw [Value.normalized_decode_int _ _ finite (by decide), toSingle_eq, if_neg (by omega), if_neg (by omega)]
  rfl

/-- The words that are rounded are those that are finite and not zero, with bits behind the point. -/
theorem isRounded_iff (word : Int) :
    isRounded word ↔
      ((Format.half.decode word).category = .normal ∨ (Format.half.decode word).category = .subnormal) ∧
        0 < fractionBits (Format.half.decode word) := by
  unfold isRounded
  dsimp only
  cases (Format.half.decode word).category <;> simp

theorem toIntegral_of_isRounded (mode : RoundingMode) {word : Int} (rounds : isRounded word) :
    toIntegral mode word =
      let rounded := (shiftRightAndRound mode (Format.half.decode word).negative (Format.half.decode word).significand
        (fractionBits (Format.half.decode word))).1
      Format.half.normalized .nearestEven (Format.half.decode word).negative rounded
        (bitLength rounded.natAbs - 1) := by
  obtain ⟨known, positive⟩ := (isRounded_iff word).mp rounds
  unfold toIntegral
  rcases known with normal | subnormal
  · simp only [normal, if_neg (not_le.mpr positive)]
  · simp only [subnormal, if_neg (not_le.mpr positive)]

theorem toIntegral_of_not_isRounded (mode : RoundingMode) {word : Int} (kept : ¬isRounded word) :
    toIntegral mode word = lowBits 16 word := by
  rw [isRounded_iff, not_and, not_lt] at kept
  unfold toIntegral
  dsimp only
  cases category : (Format.half.decode word).category with
  | zero | infinite | nan => rfl
  | normal => exact if_pos (kept (Or.inl category))
  | subnormal => exact if_pos (kept (Or.inr category))

/-- The last bit of a half is at most 24 places behind the point. -/
theorem fractionBits_le {word : Int}
    (known : (Format.half.decode word).category = .normal ∨ (Format.half.decode word).category = .subnormal) :
    fractionBits (Format.half.decode word) ≤ 24 := by
  have bias : Format.half.bias = 15 := rfl
  have width : Format.half.fractionWidth = 10 := rfl
  unfold fractionBits
  rcases known with normal | subnormal
  · have lower := (Format.exponent_normal normal).1
    have length := Format.bitLength_normal normal
    omega
  · have exponent := (Format.decode_subnormal subnormal).2
    rw [← (Format.decode_subnormal subnormal).1] at exponent
    omega

theorem significand_lt {word : Int}
    (known : (Format.half.decode word).category = .normal ∨ (Format.half.decode word).category = .subnormal) :
    (Format.half.decode word).significand < 2 ^ 11 := by
  rw [← bitLength_le_iff]
  rcases known with normal | subnormal
  · exact (Format.bitLength_normal normal).le
  · exact (Format.bitLength_subnormal subnormal).2.trans (by decide)

/-- Rounding to an integral half shifts by a small count, and packs a significand that is short. -/
theorem exists_toIntegral_steps {word : Int} (rounds : isRounded word) (number : Int) :
    ∃ (significand : Nat) (carry : Bool),
      Value.shiftRightAndRound (.int (Format.half.decode word).significand) (.bool (Format.half.decode word).negative)
        (.int (fractionBits (Format.half.decode word))) (.int number) = .ok ((significand : Int), carry) ∧
      Value.normalized Format.half (.int significand) (.int (bitLength significand - 1))
        (.bool (Format.half.decode word).negative) (.int 0) =
        .ok (toIntegral (RoundingMode.ofNumber number) word) := by
  obtain ⟨known, positive⟩ := (isRounded_iff word).mp rounds
  have wide : Value.maxShift = 69175290276410818320 := by decide
  have places := fractionBits_le known
  have integral := toIntegral_of_isRounded (RoundingMode.ofNumber number) rounds
  obtain ⟨lower, counted⟩ : ∃ lower : Nat, fractionBits (Format.half.decode word) = (lower + 1 : Nat) :=
    ⟨(fractionBits (Format.half.decode word) - 1).toNat, by omega⟩
  rw [counted] at integral ⊢
  obtain ⟨rounded, shifted, result⟩ := shiftRightAndRound_eq (RoundingMode.ofNumber number)
    (Format.half.decode word).negative (Format.half.decode word).significand (lower + 1 : Nat)
  have length : bitLength rounded ≤ 12 := by
    have near := shifted.near
    have below := significand_lt known
    have whole := Nat.div_le_self (Format.half.decode word).significand (2 * 2 ^ lower)
    rw [shiftedDown_succ] at near
    rw [bitLength_le_iff]
    omega
  rw [result] at integral
  refine ⟨rounded, decide (bitLength (shiftedDown (Format.half.decode word).significand (lower + 1 : Nat)) <
    bitLength rounded), ?_, ?_⟩
  · rw [Value.shiftRightAndRound_int, if_neg (by omega), result]
  · rw [Value.normalized_bool, Value.normalized_int, if_neg, integral]
    · rfl
    · rintro ⟨-, large⟩
      have bias : Format.half.bias = 15 := rfl
      unfold Format.lostBits Format.excess at large
      rw [Int.natAbs_natCast] at large
      split_ifs at large <;> omega

/-- What packs a significand has 16 bits. -/
theorem normalized_lt (mode : RoundingMode) (negative : Bool) (significand : Nat) (exponent : Int) :
    Format.half.normalized mode negative significand exponent < 65536 := by
  obtain ⟨pattern, rounds, packed⟩ := Format.half.exists_normalized_rounds mode negative significand exponent
  rw [packed]
  exact Format.half.signed_lt negative (rounds.le.trans_lt Format.half.exponentMask_lt_signBit)

theorem ofSingle_lt (word : Int) : ofSingle word < 65536 := by
  rw [ofSingle_eq]
  split_ifs
  · decide
  · exact Format.half.signed_lt _ Format.half.exponentMask_lt_signBit
  · exact normalized_lt _ _ _ _

theorem toIntegral_lt (mode : RoundingMode) (word : Int) : toIntegral mode word < 65536 := by
  by_cases rounds : isRounded word
  · obtain ⟨rounded, -, result⟩ := shiftRightAndRound_eq mode (Format.half.decode word).negative
      (Format.half.decode word).significand (fractionBits (Format.half.decode word))
    rw [toIntegral_of_isRounded mode rounds, result]
    exact normalized_lt _ _ _ _
  · rw [toIntegral_of_not_isRounded mode rounds]
    exact lowBits_lt 16 word

end Half

end HalfPrecision
