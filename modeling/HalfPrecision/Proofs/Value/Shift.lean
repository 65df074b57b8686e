import HalfPrecision.Proofs.Rounding.Quotient
import HalfPrecision.Proofs.Value.Packing

/-!
This file shows when shifting an integer to the right fails. The lost bits are looked at through a mask, and a mask can
be made as long as it has no more digits than an integer may have. In all other cases the quotient is the rounded one. A
shift by a count that is not positive multiplies, and fails only where the product has too many digits.
-/

namespace HalfPrecision

theorem Scaled.compareRat_ne_gt (first second : Rat) : (compareRat first second != .gt) = decide (first ≤ second) := by
  unfold compareRat
  split_ifs with less greater
  · simp [less.le]
  · simp [greater]
  · simp [not_lt.mp greater]

/-- A remainder tells whether any of the bits that a shift loses is set. -/
theorem lostBit_iff (significand lower : Nat) :
    (decide (significand / 2 ^ lower % 2 = 1) || decide (significand % 2 ^ lower ≠ 0)) =
      decide (significand % 2 ^ (lower + 1) ≠ 0) := by
  have positive := Nat.two_pow_pos lower
  rw [← Bool.decide_or, pow_succ, Nat.mod_mul]
  apply decide_eq_decide.mpr
  rcases Nat.mod_two_eq_zero_or_one (significand / 2 ^ lower) with zero | one
  · simp [zero]
  · rw [one]
    simp

/-- A quotient that is rounded downward grows by the sign if anything is lost. -/
theorem shiftRightAndRound_downward (negative : Bool) (significand lower : Nat) :
    let quotient := significand / (2 * 2 ^ lower)
    (shiftRightAndRound .towardZero false significand (lower + 1 : Nat)).1 = quotient ∧
      (significand % 2 ^ (lower + 1) ≠ 0 →
        shiftRightAndRound .downward negative significand (lower + 1 : Nat) =
          ((quotient : Int) + negative.toNat,
            decide (bitLength quotient < bitLength (quotient + negative.toNat)))) := by
  obtain ⟨truncated, towardZero, kept⟩ := shiftRightAndRound_succ .towardZero false significand lower
  obtain ⟨rounded, downward, decided⟩ := shiftRightAndRound_succ .downward negative significand lower
  simp only [RoundingMode.increments, Bool.false_eq_true, if_false, lostBit_iff] at kept decided
  subst kept
  refine ⟨by rw [towardZero], fun lost => ?_⟩
  rw [decide_eq_true lost] at decided
  rw [downward, decided]
  cases negative <;> simp

namespace Value

theorem atMost_int (number bound : Int) : (int number).atMost bound = .ok (decide (number ≤ bound)) := by
  have ordered := Scaled.compareRat_ne_gt number bound
  rw [decide_eq_decide.mpr Int.cast_le] at ordered
  exact congrArg Except.ok ordered

section Sign

variable {sign : Value} {negative : Bool} (signed : sign.integer? = some (negative.toNat : Int))

include signed

/-- Signs are truth values or the integers that these are. -/
theorem sign_cases : sign = bool negative ∨ sign = int negative.toNat := by
  cases sign with
  | bool truth =>
      left
      cases truth <;> cases negative <;> simp_all [integer?]
  | int number =>
      right
      exact congrArg int (Option.some.inj signed)
  | _ => cases signed

theorem isTrue_sign : sign.isTrue = negative := by
  rcases sign_cases signed with rfl | rfl
  · rfl
  · exact isTrue_toNat negative

/-- What is added to a quotient that is rounded downward is the sign itself. -/
theorem signIncrement_sign (quotient : Int) : signIncrement quotient sign = .ok (negative.toNat : Int) := by
  rcases sign_cases signed with rfl | rfl <;> cases negative <;> rfl

/-- Shifting an integer to the right rounds unless the mask of the lost bits cannot be made. -/
theorem shiftRightAndRound_loses {mode : Value} {known : RoundingMode} (read : mode.mode = .ok known)
    (significand lower : Nat) :
    Value.shiftRightAndRound (int significand) sign (int (lower + 1 : Nat)) mode =
      if maxShift < lower then .error .shiftTooLong
      else .ok (HalfPrecision.shiftRightAndRound known negative significand (lower + 1 : Nat)) := by
  have positive : ¬((lower + 1 : Nat) : Int) ≤ 0 := by omega
  have minus : (int (lower + 1 : Nat)).plus .add (-1) = .ok (int lower) := by
    have below : ((lower + 1 : Nat) : Int) + -1 = (lower : Nat) := by omega
    exact congrArg (fun amount => Except.ok (int amount)) below
  rw [Value.shiftRightAndRound, atMost_int, decide_eq_false positive]
  change shortened (int significand) sign (int (lower + 1 : Nat)) mode = _
  rw [shortened, minus, read]
  change (shiftedLeft 1 lower).bind _ = _
  rw [shiftedLeft_one]
  by_cases large : maxShift < lower
  · rw [if_pos large, if_pos large]
    rfl
  · rw [if_neg large, if_neg large]
    obtain ⟨truncated, downward⟩ := shiftRightAndRound_downward negative significand lower
    simp only [signIncrement_sign signed, isTrue_sign signed]
    change (if known = .downward ∧ (significand : Int) % (1 <<< (lower + 1) : Nat) ≠ 0 then _ else _) = _
    split_ifs with lost
    · rw [Nat.one_shiftLeft] at lost
      rw [lost.1, downward (by exact_mod_cast lost.2)]
      change Except.ok (_, _) = _
      rw [← Nat.cast_succ, truncated]
      rfl
    · rfl

end Sign

theorem shiftRightAndRound_int (significand lower : Nat) (number : Int) (negative : Bool) :
    Value.shiftRightAndRound (int significand) (bool negative) (int (lower + 1 : Nat)) (int number) =
      if maxShift < lower then .error .shiftTooLong
      else .ok (HalfPrecision.shiftRightAndRound (RoundingMode.ofNumber number) negative significand
        (lower + 1 : Nat)) :=
  shiftRightAndRound_loses (by cases negative <;> rfl) (mode_int number) significand lower

/-- A shift by a count that is not positive multiplies. Neither the sign nor the mode is looked at. -/
theorem shiftRightAndRound_gains (significand count : Nat) (sign mode : Value) :
    Value.shiftRightAndRound (int significand) sign (int (-(count : Int))) mode =
      if ExceedsDigits significand count then .error .shiftTooLong
      else .ok (((significand * 2 ^ count : Nat) : Int), false) := by
  have nonpositive : -(count : Int) ≤ 0 := by omega
  rw [Value.shiftRightAndRound, atMost_int, decide_eq_true nonpositive]
  change (shiftedLeft significand (- -(count : Int))).bind _ = _
  rw [neg_neg, shiftedLeft_natCast]
  split_ifs <;> rfl

/-- A shift multiplies by a power of two, or it divides by one and rounds as the mode tells, with a carry where the
rounding makes the quotient longer. It fails only where the product or the mask of the lost bits has too many digits. -/
theorem shiftRightAndRound_divides {sign mode : Value} {negative : Bool} {known : RoundingMode}
    (signed : sign.integer? = some (negative.toNat : Int)) (read : mode.mode = .ok known) (significand : Nat)
    (shift : Int) :
    (shift ≤ 0 →
      Value.shiftRightAndRound (int significand) sign (int shift) mode =
        if ExceedsDigits significand (-shift).toNat then .error .shiftTooLong
        else .ok (((significand * 2 ^ (-shift).toNat : Nat) : Int), false)) ∧
    (0 < shift →
      let quotient := significand / 2 ^ shift.toNat
      let rounded := roundedQuotient known negative significand shift.toNat
      (rounded = 2 ^ bitLength quotient ↔ bitLength quotient < bitLength rounded) ∧
      Value.shiftRightAndRound (int significand) sign (int shift) mode =
        if (maxShift : Int) < shift - 1 then .error .shiftTooLong
        else .ok ((rounded : Int), decide (rounded = 2 ^ bitLength quotient))) := by
  constructor
  · intro gains
    have result := shiftRightAndRound_gains significand (-shift).toNat sign mode
    rwa [Int.toNat_of_nonneg (by omega), neg_neg] at result
  · intro loses quotient rounded
    obtain ⟨lower, rfl⟩ : ∃ lower : Nat, shift = (lower + 1 : Nat) := ⟨(shift - 1).toNat, by omega⟩
    have step : rounded ≤ quotient + 1 := roundedQuotient_le known negative significand _
    refine ⟨(bitLength_lt_iff step).symm, ?_⟩
    rw [shiftRightAndRound_loses signed read, shiftRightAndRound_eq_roundedQuotient,
      show ((lower + 1 : Nat) : Int) - 1 = lower by omega]
    by_cases large : maxShift < lower
    · rw [if_pos large, if_pos (by omega)]
    · rw [if_neg large, if_neg (by omega)]
      rfl

/-- An increment that is all of a rounded quotient is a carry. Without a mode that is known nothing is added, and a
shift by a negative count multiplies. -/
theorem shiftRightAndRound_divides_carry :
    (bool true).integer? = some ((true.toNat : Nat) : Int) ∧ (int 2).mode = .ok .downward ∧ null.mode = .ok .unlisted ∧
      Value.shiftRightAndRound (int 7) (bool true) (int 3) (int 2) = .ok (1, true) ∧
      Value.shiftRightAndRound (int 7) (bool true) (int 3) null = .ok (0, false) ∧
      Value.shiftRightAndRound (int 7) (bool true) (int (-3)) null = .ok (56, false) := by
  have signed : (bool true).integer? = some ((true.toNat : Nat) : Int) := rfl
  have unlisted : null.mode = .ok .unlisted := rfl
  refine ⟨signed, mode_int 2, unlisted, ?_, ?_, ?_⟩
  · exact ((shiftRightAndRound_divides signed (mode_int 2) 7 3).2 (by decide)).2.trans (by decide)
  · exact ((shiftRightAndRound_divides signed unlisted 7 3).2 (by decide)).2.trans (by decide)
  · exact ((shiftRightAndRound_divides signed unlisted 7 (-3)).1 (by decide)).trans (by decide)

/-- One is not shifted away by a very large count, as the mask of so many lost bits cannot be made. -/
theorem shiftRightAndRound_maskTooLong :
    Value.shiftRightAndRound (int 1) (int 0) (int (2 ^ 70)) (int 0) = .error .shiftTooLong := by
  have signed : (int 0).integer? = some ((false.toNat : Nat) : Int) := rfl
  have result := shiftRightAndRound_loses signed (mode_int 0) 1 (2 ^ 70 - 1)
  rwa [if_pos (by decide)] at result

end Value

end HalfPrecision
