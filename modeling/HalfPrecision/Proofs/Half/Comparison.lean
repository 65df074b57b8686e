import HalfPrecision.Half.Order
import HalfPrecision.Proofs.Binary64.Exact
import HalfPrecision.Proofs.Half.Widened

/-!
This file shows that the predicates on half precision words decide the order of their values, which are the values of
the binary64 numbers that the words convert to. No predicate holds of a NaN.
-/

namespace HalfPrecision.Half

theorem isNaN_iff (word : Int) : isNaN word ↔ 0x7c00 < lowBits 16 word % 2 ^ 15 := by
  rw [isNaN, decide_eq_true_eq]
  rfl

theorem not_isNaN_signed (negative : Bool) {pattern : Nat} (notNaN : pattern ≤ Format.half.exponentMask) :
    ¬isNaN (Format.half.signed negative pattern) := by
  have below : pattern < Format.half.signBit := notNaN.trans_lt Format.half.exponentMask_lt_signBit
  have magnitude := Format.magnitudeBits_signed negative below
  rw [isNaN_iff, not_lt]
  exact magnitude.trans_le notNaN

/-- The sign is set in the upper half of the patterns. -/
theorem isNegative_eq (word : Int) : isNegative word = (Format.half.decode word).negative := by
  have below := pattern_lt word
  rw [Format.decode_negative, isNegative]
  change decide (0x8000 ≤ pattern word) = decide (pattern word / 0x8000 = 1)
  congr 1
  apply propext
  omega

/-- The exact value of a word that is not a NaN. -/
def value (word : Int) : WithBotTop Rat :=
  Format.half.extended (decide (lowBits 16 word / 2 ^ 15 = 1)) (lowBits 16 word % 2 ^ 15)

/-- The value of a word stands at the place of its key. -/
theorem value_eq_extendedAt (word : Int) : value word = Format.half.extendedAt (orderedKey word) := by
  have key : orderedKey word = withSign (Format.half.decode word).negative (Format.half.magnitudeBits word) := by
    rw [orderedKey, isNegative_eq]
    rfl
  rw [key, ← Format.extended_eq_extendedAt]
  rfl

theorem orderedKey_mem_line {word : Int} (notNaN : ¬isNaN word) : orderedKey word ∈ Format.half.line := by
  rw [isNaN_iff] at notNaN
  exact Format.half.withSign_mem_line (isNegative word) (not_lt.mp notNaN)

/-- A word that is not a NaN converts to the number of its value. -/
theorem extended?_toBinary64 {word : Int} (notNaN : ¬isNaN word) : (toBinary64 word).extended? = some (value word) := by
  rw [isNaN_iff, not_lt] at notNaN
  have known : Format.half.magnitudeBits word ≤ Format.half.exponentMask := notNaN
  obtain ⟨image, inside, single, infinite, finite, -⟩ := exists_toSingle known
  have below : image < Format.single.signBit := inside.trans_lt Format.single.exponentMask_lt_signBit
  have magnitude : Format.single.magnitudeBits (toSingle word) = image := by
    rw [single, Format.magnitudeBits_signed _ below]
  have sign : (Format.single.decode (toSingle word)).negative = (Format.half.decode word).negative := by
    rw [single, Format.decode_signed_negative _ below]
  have value : value word =
      Format.half.extended (Format.half.decode word).negative (Format.half.magnitudeBits word) := rfl
  rw [toBinary64, Binary64.extended?_ofSingle (magnitude.trans_le inside), magnitude, sign, value]
  rcases lt_or_eq_of_le known with less | equal
  · rw [Format.extended_congr _ (finite less).1 less (finite less).2]
  · rw [infinite equal, equal]
    simp [Format.extended]

/-- The key of a word that is not a NaN orders it as its value does. -/
theorem orderedKey_lt_iff {first second : Int} (firstNumber : ¬isNaN first) (secondNumber : ¬isNaN second) :
    orderedKey first < orderedKey second ↔ value first < value second := by
  rw [value_eq_extendedAt, value_eq_extendedAt]
  exact (Format.half.extendedAt_strictMonoOn.lt_iff_lt (orderedKey_mem_line firstNumber)
    (orderedKey_mem_line secondNumber)).symm

theorem orderedKey_le_iff {first second : Int} (firstNumber : ¬isNaN first) (secondNumber : ¬isNaN second) :
    orderedKey first ≤ orderedKey second ↔ value first ≤ value second := by
  rw [← not_lt, ← not_lt, orderedKey_lt_iff secondNumber firstNumber]

theorem orderedKey_eq_iff {first second : Int} (firstNumber : ¬isNaN first) (secondNumber : ¬isNaN second) :
    orderedKey first = orderedKey second ↔ value first = value second := by
  rw [le_antisymm_iff, le_antisymm_iff, orderedKey_le_iff firstNumber secondNumber,
    orderedKey_le_iff secondNumber firstNumber]

theorem comparable_eq_false {first second : Int} (isNaN : isNaN first ∨ isNaN second) :
    comparable first second = false := by
  rcases isNaN with left | right
  · simp [comparable, left]
  · simp [comparable, right]

theorem comparable_eq_true {first second : Int} (firstNumber : ¬isNaN first) (secondNumber : ¬isNaN second) :
    comparable first second = true := by
  simp [comparable, firstNumber, secondNumber]

/-- The predicates decide the order of the values of words, which are the values of the numbers the words convert to. No
predicate holds of a NaN. -/
theorem predicates_decide_order (first second : Int) :
    (0x7c00 < lowBits 16 first % 2 ^ 15 ∨ 0x7c00 < lowBits 16 second % 2 ^ 15 →
      equal first second = false ∧ less first second = false ∧ lessOrEqual first second = false ∧
      greater first second = false ∧ greaterOrEqual first second = false) ∧
    (lowBits 16 first % 2 ^ 15 ≤ 0x7c00 → lowBits 16 second % 2 ^ 15 ≤ 0x7c00 →
      (toBinary64 first).extended? = some (value first) ∧ (toBinary64 second).extended? = some (value second) ∧
      (equal first second = true ↔ value first = value second) ∧
      (less first second = true ↔ value first < value second) ∧
      (lessOrEqual first second = true ↔ value first ≤ value second) ∧
      (greater first second = true ↔ value second < value first) ∧
      (greaterOrEqual first second = true ↔ value second ≤ value first)) := by
  constructor
  · intro isNaN
    rw [← isNaN_iff, ← isNaN_iff] at isNaN
    simp [equal, less, lessOrEqual, greater, greaterOrEqual, comparable_eq_false isNaN]
  · intro firstNumber secondNumber
    rw [← not_lt, ← isNaN_iff] at firstNumber secondNumber
    have comparable := comparable_eq_true firstNumber secondNumber
    refine ⟨extended?_toBinary64 firstNumber, extended?_toBinary64 secondNumber, ?_, ?_, ?_, ?_, ?_⟩
    · rw [equal, comparable, Bool.true_and, decide_eq_true_eq, orderedKey_eq_iff firstNumber secondNumber]
    · rw [less, comparable, Bool.true_and, decide_eq_true_eq, orderedKey_lt_iff firstNumber secondNumber]
    · rw [lessOrEqual, comparable, Bool.true_and, decide_eq_true_eq, orderedKey_le_iff firstNumber secondNumber]
    · rw [greater, comparable, Bool.true_and, decide_eq_true_eq, orderedKey_lt_iff secondNumber firstNumber]
    · rw [greaterOrEqual, comparable, Bool.true_and, decide_eq_true_eq, orderedKey_le_iff secondNumber firstNumber]

/-- Words below zero and words with high bits have the values of their low bits. -/
theorem predicates_decide_order_wrapped :
    lowBits 16 (-1024) % 2 ^ 15 ≤ 0x7c00 ∧ value (-1024) = ⊥ ∧ less (-1024) 0x1fbff = true ∧
      value (-0x8000) = value 0x10000 ∧ equal (-0x8000) 0x10000 = true ∧ lessOrEqual (-1) 0x3c00 = false := by
  have infinity := (predicates_decide_order (-1024) 0x1fbff).2 (by decide) (by decide)
  have zeros := (predicates_decide_order (-0x8000) 0x10000).2 (by decide) (by decide)
  have isNaN := (predicates_decide_order (-1) 0x3c00).1 (by decide)
  have below : value (-1024) < value 0x1fbff := by decide +kernel
  have same : value (-0x8000) = value 0x10000 := by decide +kernel
  exact ⟨by decide, by decide +kernel, infinity.2.2.2.1.mpr below, same, zeros.2.2.1.mpr same, isNaN.2.2.1⟩

end HalfPrecision.Half
