import HalfPrecision.Proofs.Format.Interchange
import HalfPrecision.Proofs.Value.Packing

/-!
This file shows which pairs of widths make a format. The masks of a layout are made by shifts of a one, of which the
first that fails decides. Where no mask has too many digits, only a layout without fraction bit or without exponent bit
fails, and every other one is an interchange format.
-/

namespace HalfPrecision

theorem Format.exists_ofWidths? {width fractionWidth : Int} (fraction : 1 ≤ fractionWidth)
    (exponent : fractionWidth + 2 ≤ width) :
    ∃ format, ofWidths? width fractionWidth = some format ∧ (format.width : Int) = width ∧
      (format.fractionWidth : Int) = fractionWidth := by
  unfold ofWidths?
  rw [dif_pos ⟨fraction, exponent⟩]
  exact ⟨_, rfl, Int.toNat_of_nonneg (by omega), Int.toNat_of_nonneg (by omega)⟩

namespace Value

section Shifts

variable {amount : Int}

theorem shiftedLeft_one_of_neg (negative : amount < 0) : shiftedLeft 1 amount = .error .negativeShift := if_pos negative

theorem shiftedLeft_one_of_le (nonnegative : 0 ≤ amount) (short : amount ≤ maxShift) :
    shiftedLeft 1 amount = .ok ((1 <<< amount.toNat : Nat) : Int) := by
  obtain ⟨count, rfl⟩ := Int.eq_ofNat_of_zero_le nonnegative
  rw [shiftedLeft_one, if_neg (by omega), Int.toNat_natCast]

theorem shiftedLeft_one_of_lt (long : (maxShift : Int) < amount) : shiftedLeft 1 amount = .error .shiftTooLong := by
  obtain ⟨count, rfl⟩ := Int.eq_ofNat_of_zero_le (long.le.trans' (Int.natCast_nonneg maxShift))
  rw [shiftedLeft_one, if_pos (by omega)]

end Shifts

variable (width fractionWidth : Int)

/-- The masks are made one after the other. Only then the widths tell whether there is a format. -/
theorem formatOf_eq :
    formatOf width fractionWidth =
      (shiftedLeft 1 (width - 1)).bind fun _ => (shiftedLeft 1 (fractionWidth - 1)).bind fun _ =>
        (shiftedLeft 1 fractionWidth).bind fun _ => (shiftedLeft 1 (width - fractionWidth - 2)).bind fun _ =>
          match Format.ofWidths? width fractionWidth with
          | some format => .ok format
          | none => .error .negativeShift := by
  unfold formatOf
  simp only [List.mapM_cons, List.mapM_nil, bind_assoc, pure_bind]
  rfl

/-- Whether a mask of a layout has too many digits. A width without bits fails before. -/
def LayoutExceedsDigits : Prop :=
  0 < width ∧ ((maxShift : Int) < width - 1 ∨ (maxShift : Int) < fractionWidth)

variable {width fractionWidth}

/-- The first mask with too many digits is that of the sign, that of the quiet bit or that of the leading bit. -/
theorem formatOf_of_exceeds (exceeds : LayoutExceedsDigits width fractionWidth) :
    formatOf width fractionWidth = .error .shiftTooLong := by
  obtain ⟨positive, large⟩ := exceeds
  rw [formatOf_eq]
  -- The cases follow the order of the shifts. The last one, for the bias, is no longer than the first.
  by_cases sign : (maxShift : Int) < width - 1
  · rw [shiftedLeft_one_of_lt sign]
    rfl
  have fraction : (maxShift : Int) < fractionWidth := large.resolve_left sign
  rw [shiftedLeft_one_of_le (show 0 ≤ width - 1 by omega) (not_lt.mp sign)]
  by_cases quiet : (maxShift : Int) < fractionWidth - 1
  · rw [shiftedLeft_one_of_lt quiet]
    rfl
  · rw [shiftedLeft_one_of_le (show 0 ≤ fractionWidth - 1 by omega) (not_lt.mp quiet), shiftedLeft_one_of_lt fraction]
    rfl

/-- A layout whose masks can be made is refused only for its widths. -/
theorem formatOf_of_not_exceeds (fits : ¬LayoutExceedsDigits width fractionWidth) :
    formatOf width fractionWidth =
      match Format.ofWidths? width fractionWidth with
      | some format => .ok format
      | none => .error .negativeShift := by
  rw [formatOf_eq]
  -- Each shift by a negative count belongs to a pair of widths without a format.
  by_cases unsigned : width < 1
  · rw [shiftedLeft_one_of_neg (show width - 1 < 0 by omega),
      (Format.ofWidths?_eq_none_iff width fractionWidth).mpr (by omega)]
    rfl
  have narrow : width - 1 ≤ maxShift ∧ fractionWidth ≤ maxShift := by
    unfold LayoutExceedsDigits at fits
    omega
  rw [shiftedLeft_one_of_le (show 0 ≤ width - 1 by omega) narrow.1]
  by_cases whole : fractionWidth < 1
  · rw [shiftedLeft_one_of_neg (show fractionWidth - 1 < 0 by omega),
      (Format.ofWidths?_eq_none_iff width fractionWidth).mpr (Or.inl whole)]
    rfl
  rw [shiftedLeft_one_of_le (show 0 ≤ fractionWidth - 1 by omega) (by omega),
    shiftedLeft_one_of_le (show 0 ≤ fractionWidth by omega) narrow.2]
  by_cases unscaled : width < fractionWidth + 2
  · rw [shiftedLeft_one_of_neg (show width - fractionWidth - 2 < 0 by omega),
      (Format.ofWidths?_eq_none_iff width fractionWidth).mpr (Or.inr unscaled)]
    rfl
  · rw [shiftedLeft_one_of_le (show 0 ≤ width - fractionWidth - 2 by omega) (by omega)]
    rfl

/-- Two widths whose masks can be made are refused exactly without a bit for the fraction or for the exponent, and
otherwise make an interchange format. -/
theorem formatOf_interchange (width fractionWidth : Int) :
    (¬LayoutExceedsDigits width fractionWidth →
      (formatOf width fractionWidth = .error .negativeShift ↔ fractionWidth < 1 ∨ width < fractionWidth + 2) ∧
      (¬(fractionWidth < 1 ∨ width < fractionWidth + 2) →
        ∃ format, formatOf width fractionWidth = .ok format ∧ (format.width : Int) = width ∧
          (format.fractionWidth : Int) = fractionWidth ∧ format.Interchange ∧
          (width ≤ maxShift → ∀ word : Int, Value.decoded format (int word) = .ok (format.decode word)))) ∧
    (LayoutExceedsDigits width fractionWidth → formatOf width fractionWidth = .error .shiftTooLong) := by
  refine ⟨fun fits => ?_, formatOf_of_exceeds⟩
  rw [formatOf_of_not_exceeds fits, ← Format.ofWidths?_eq_none_iff]
  cases made : Format.ofWidths? width fractionWidth with
  | none => simp
  | some format =>
      have widths : ¬(fractionWidth < 1 ∨ width < fractionWidth + 2) := by
        rw [← Format.ofWidths?_eq_none_iff, made]
        simp
      obtain ⟨same, known, total, fraction⟩ :=
        Format.exists_ofWidths? (show 1 ≤ fractionWidth by omega) (show fractionWidth + 2 ≤ width by omega)
      obtain rfl := Option.some.inj (made.symm.trans known)
      have reads (word : Int) : Value.decoded format (int word) = .ok (format.decode word) := rfl
      simp [total, fraction, format.interchange, reads]

/-- The smallest format has a bit for the exponent and one for the fraction, and there is none without an exponent. -/
theorem formatOf_interchange_smallest :
    ¬LayoutExceedsDigits 3 1 ∧ ¬LayoutExceedsDigits 11 10 ∧
      (∃ format, formatOf 3 1 = .ok format ∧ format.Interchange) ∧ formatOf 11 10 = .error .negativeShift := by
  have smallest : ¬LayoutExceedsDigits 3 1 := by
    unfold LayoutExceedsDigits
    decide
  have unscaled : ¬LayoutExceedsDigits 11 10 := by
    unfold LayoutExceedsDigits
    decide
  obtain ⟨format, made, -, -, interchange, -⟩ := ((formatOf_interchange 3 1).1 smallest).2 (by decide)
  exact ⟨smallest, unscaled, ⟨format, made, interchange⟩, ((formatOf_interchange 11 10).1 unscaled).1.mpr (by decide)⟩

/-- A fraction that is wider than the whole is not refused for its width if its quiet bit has too many digits. -/
theorem formatOf_maskTooLong : formatOf 16 (2 ^ 70) = .error .shiftTooLong := by
  rw [formatOf_eq, shiftedLeft_one_of_le (by decide) (by decide), shiftedLeft_one_of_lt (by decide)]
  rfl

end Value

end HalfPrecision
