import HalfPrecision.Operation
import HalfPrecision.Proofs.Half.Comparison

/-!
This file shows that the total order of half precision words refines the order of their values, and that sorting by it
is stable. Words are equivalent if they have the same low bits or are both NaNs.
-/

namespace HalfPrecision.Half

theorem pattern_natCast (word : Int) : (pattern word : Int) = word % 2 ^ 16 := natCast_lowBits 16 word

theorem pattern_eq_iff (first second : Int) : pattern first = pattern second ↔ first % 2 ^ 16 = second % 2 ^ 16 := by
  rw [← pattern_natCast, ← pattern_natCast, Int.natCast_inj]

/-- The key of a number counts its pattern down from the sign bit on. -/
theorem orderedKey_eq (word : Int) :
    orderedKey word = if 0x8000 ≤ pattern word then 0x8000 - (pattern word : Int) else pattern word := by
  have below := pattern_lt word
  have bit : Format.half.signBit = 0x8000 := rfl
  simp only [orderedKey, isNegative, magnitude, bit, decide_eq_true_eq]
  split_ifs <;> omega

theorem totalOrderKey_of_isNaN {word : Int} (isNaN : isNaN word) : totalOrderKey word = 0x8000 := by
  rw [totalOrderKey, if_pos isNaN]
  rfl

/-- The places of negative words end just below zero, where the negative zero is. -/
theorem totalOrderKey_of_not_isNaN {word : Int} (notNaN : ¬isNaN word) :
    totalOrderKey word = if 0x8000 ≤ pattern word then 0x7fff - (pattern word : Int) else pattern word := by
  have key := orderedKey_eq word
  have bit : Format.half.signBit = 0x8000 := rfl
  simp only [orderedKey, isNegative, bit, decide_eq_true_eq] at key
  simp only [totalOrderKey, notNaN, isNegative, bit, decide_eq_true_eq, Bool.false_eq_true, if_false]
  split_ifs at key ⊢ <;> omega

/-- All numbers come before the NaNs. -/
theorem totalOrderKey_lt {word : Int} (notNaN : ¬isNaN word) : totalOrderKey word < 0x8000 := by
  have below := pattern_lt word
  rw [totalOrderKey_of_not_isNaN notNaN]
  split_ifs <;> omega

theorem totalOrderKey_lt_of_isNaN {first second : Int} (notNaN : ¬isNaN first) (isNaN : isNaN second) :
    totalOrderKey first < totalOrderKey second := by
  rw [totalOrderKey_of_isNaN isNaN]
  exact totalOrderKey_lt notNaN

/-- Numbers in one place have one pattern. -/
theorem pattern_eq_of_totalOrderKey_eq {first second : Int} (firstNumber : ¬isNaN first) (secondNumber : ¬isNaN second)
    (same : totalOrderKey first = totalOrderKey second) : pattern first = pattern second := by
  rw [totalOrderKey_of_not_isNaN firstNumber, totalOrderKey_of_not_isNaN secondNumber] at same
  split_ifs at same <;> omega

theorem isNaN_congr {first second : Int} (same : pattern first = pattern second) : isNaN first = isNaN second := by
  rw [isNaN, isNaN, magnitude, magnitude, same]

theorem totalOrderKey_congr {first second : Int} (same : pattern first = pattern second) :
    totalOrderKey first = totalOrderKey second := by
  by_cases isNaN : isNaN first
  · rw [totalOrderKey_of_isNaN isNaN, totalOrderKey_of_isNaN (isNaN_congr same ▸ isNaN)]
  · rw [totalOrderKey_of_not_isNaN isNaN, totalOrderKey_of_not_isNaN (isNaN_congr same ▸ isNaN), same]

/-- Two words share a place if they are both NaNs or have the same pattern. -/
theorem totalOrderKey_eq_iff (first second : Int) :
    totalOrderKey first = totalOrderKey second ↔ isNaN first ∧ isNaN second ∨ pattern first = pattern second := by
  constructor
  · intro same
    by_cases left : isNaN first <;> by_cases right : isNaN second
    · exact Or.inl ⟨left, right⟩
    · exact absurd same (totalOrderKey_lt_of_isNaN right left).ne'
    · exact absurd same (totalOrderKey_lt_of_isNaN left right).ne
    · exact Or.inr (pattern_eq_of_totalOrderKey_eq left right same)
  · rintro (⟨left, right⟩ | same)
    · rw [totalOrderKey_of_isNaN left, totalOrderKey_of_isNaN right]
    · exact totalOrderKey_congr same

theorem less_iff (first second : Int) :
    less first second ↔ ¬isNaN first ∧ ¬isNaN second ∧ orderedKey first < orderedKey second := by
  simp [less, comparable, and_assoc]

theorem lessOrEqual_iff (first second : Int) :
    lessOrEqual first second ↔ ¬isNaN first ∧ ¬isNaN second ∧ orderedKey first ≤ orderedKey second := by
  simp [lessOrEqual, comparable, and_assoc]

/-- The total order of numbers is the order of their keys with the negative zero put below the positive one. -/
theorem totalOrderKey_lt_iff {first second : Int} (firstNumber : ¬isNaN first) (secondNumber : ¬isNaN second) :
    totalOrderKey first < totalOrderKey second ↔
      orderedKey first < orderedKey second ∨ pattern first = 0x8000 ∧ pattern second = 0 := by
  rw [totalOrderKey_of_not_isNaN firstNumber, totalOrderKey_of_not_isNaN secondNumber, orderedKey_eq, orderedKey_eq]
  split_ifs <;> omega

theorem totalOrderKey_negativeZero {word : Int} (negative : pattern word = pattern 0x8000) : totalOrderKey word = -1 :=
  totalOrderKey_congr negative

theorem totalOrderKey_positiveZero {word : Int} (positive : pattern word = pattern 0) : totalOrderKey word = 0 :=
  totalOrderKey_congr positive

/-- The negative zero comes before the positive one. -/
theorem totalOrderKey_negativeZero_lt {first second : Int} (negative : first % 2 ^ 16 = 0x8000)
    (positive : second % 2 ^ 16 = 0) : totalOrderKey first < totalOrderKey second := by
  rw [totalOrderKey_negativeZero ((pattern_eq_iff first 0x8000).mpr negative),
    totalOrderKey_positiveZero ((pattern_eq_iff second 0).mpr positive)]
  decide

theorem orderedKey_le_of_totalOrderKey_le {first second : Int} (firstNumber : ¬isNaN first)
    (secondNumber : ¬isNaN second)
    (ordered : totalOrderKey first ≤ totalOrderKey second) : orderedKey first ≤ orderedKey second := by
  by_contra above
  have passed := (totalOrderKey_lt_iff secondNumber firstNumber).mpr (Or.inl (not_le.mp above))
  omega

section Compare

variable (first second : Int)

theorem compare_eq_sign : compare first second = (totalOrderKey first - totalOrderKey second).sign := by
  rcases lt_trichotomy (totalOrderKey first) (totalOrderKey second) with less | same | greater
  · rw [Int.sign_eq_neg_one_of_neg (by omega)]
    simp [compare, less, less.le]
  · simp [compare, same]
  · rw [Int.sign_eq_one_of_pos (by omega)]
    simp [compare, greater, greater.le]

theorem compare_nonpos_iff : compare first second ≤ 0 ↔ totalOrderKey first ≤ totalOrderKey second := by
  rw [compare_eq_sign, Int.sign_nonpos_iff, sub_nonpos]

theorem compare_eq_zero_iff : compare first second = 0 ↔ totalOrderKey first = totalOrderKey second := by
  rw [compare_eq_sign, Int.sign_eq_zero_iff_zero, sub_eq_zero]

theorem compare_eq_neg_one_iff : compare first second = -1 ↔ totalOrderKey first < totalOrderKey second := by
  rw [compare_eq_sign, Int.sign_eq_neg_one_iff_neg, sub_neg]

theorem compare_eq_one_iff : compare first second = 1 ↔ totalOrderKey second < totalOrderKey first := by
  rw [compare_eq_sign, Int.sign_eq_one_iff_pos, sub_pos]

theorem compare_antisymm : compare first second = -compare second first := by
  rw [compare_eq_sign, compare_eq_sign, ← Int.sign_neg, neg_sub]

end Compare

theorem isNaN_iff_totalOrderKey (word : Int) : isNaN word ↔ totalOrderKey word = 0x8000 := by
  constructor
  · exact totalOrderKey_of_isNaN
  · intro last
    by_contra notNaN
    exact (totalOrderKey_lt notNaN).ne last

section Sorting

variable (words : List Int)

theorem sort_perm : (sort words).Perm words := List.mergeSort_perm words _

theorem decide_totalOrderKey_trans (first second third : Int)
    (before : decide (totalOrderKey first ≤ totalOrderKey second) = true)
    (after : decide (totalOrderKey second ≤ totalOrderKey third) = true) :
    decide (totalOrderKey first ≤ totalOrderKey third) = true :=
  decide_eq_true ((of_decide_eq_true before).trans (of_decide_eq_true after))

theorem decide_totalOrderKey_total (first second : Int) :
    (decide (totalOrderKey first ≤ totalOrderKey second) || decide (totalOrderKey second ≤ totalOrderKey first)) =
      true := by
  rw [Bool.or_eq_true, decide_eq_true_eq, decide_eq_true_eq]
  exact le_total _ _

theorem sort_pairwise : (sort words).Pairwise fun earlier later => totalOrderKey earlier ≤ totalOrderKey later :=
  (List.pairwise_mergeSort decide_totalOrderKey_trans decide_totalOrderKey_total words).imp of_decide_eq_true

/-- Sorting keeps the words of one place in their order. -/
theorem filter_sort (place : Int) :
    (sort words).filter (fun word => totalOrderKey word = place) =
      words.filter fun word => totalOrderKey word = place := by
  have kept : (words.filter fun word => totalOrderKey word = place).Sublist (sort words) := by
    apply List.sublist_mergeSort decide_totalOrderKey_trans decide_totalOrderKey_total
    · rw [List.pairwise_filter]
      apply List.pairwise_of_forall
      intro first second left right
      rw [decide_eq_true_eq] at left right
      exact decide_eq_true (left.trans right.symm).le
    · exact List.filter_sublist
  have again := kept.filter fun word => totalOrderKey word = place
  rw [List.filter_filter] at again
  simp only [Bool.and_self] at again
  exact (again.eq_of_length ((sort_perm words).filter _).length_eq.symm).symm

end Sorting

end HalfPrecision.Half

namespace HalfPrecision.Operation

/-- Sorting the values of words sorts the words. -/
theorem sort_int (words : List Int) : Operation.sort (words.map Value.int) = .ok ((Half.sort words).map Value.int) := by
  have keyed : (words.map Value.int).mapM (fun value => do return (Half.totalOrderKey (← value.word), value)) =
      (.ok (words.map fun word => (Half.totalOrderKey word, Value.int word)) : Except Fault (List (Int × Value))) := by
    induction words with
    | nil => rfl
    | cons word rest tail =>
        rw [List.map_cons, List.mapM_cons, tail]
        rfl
  unfold Operation.sort
  rw [keyed]
  change Except.ok _ = Except.ok _
  have paired : (words.map fun word => (Half.totalOrderKey word, Value.int word)).mergeSort
      (fun first second => decide (first.1 ≤ second.1)) =
        (Half.sort words).map fun word => (Half.totalOrderKey word, Value.int word) := by
    symm
    apply List.map_mergeSort
    intro first _ second _
    rfl
  rw [paired, List.map_map]
  rfl

end HalfPrecision.Operation

namespace HalfPrecision.Half

/-- The comparison is a total preorder that puts the negative zero below the positive one and all NaNs last, and is the
order of values otherwise. Sorting by it is stable. -/
theorem compare_preorder_sort :
    (∀ first second third : Int,
      compare first second = -compare second first ∧
      (compare first second ≤ 0 → compare second third ≤ 0 → compare first third ≤ 0) ∧
      compare first second = (totalOrderKey first - totalOrderKey second).sign ∧
      (compare first second = 0 ↔ isNaN first ∧ isNaN second ∨ first % 2 ^ 16 = second % 2 ^ 16) ∧
      (less first second → compare first second = -1) ∧
      (compare first second = -1 → ¬isNaN first → ¬isNaN second →
        less first second ∨ first % 2 ^ 16 = 0x8000 ∧ second % 2 ^ 16 = 0) ∧
      (isNaN first → ¬isNaN second → compare first second = 1)) ∧
    ∀ words : List Int,
      Operation.sort (words.map Value.int) = .ok ((sort words).map Value.int) ∧
      (sort words).Perm words ∧
      (sort words).Pairwise (fun earlier later => compare earlier later ≤ 0) ∧
      (sort words).Pairwise (fun earlier later => isNaN earlier → isNaN later) ∧
      (sort words).filter isNaN = words.filter isNaN ∧
      (sort words).Pairwise (fun earlier later => ¬(earlier % 2 ^ 16 = 0 ∧ later % 2 ^ 16 = 0x8000)) ∧
      (sort words).Pairwise (fun earlier later => ¬isNaN earlier → ¬isNaN later → lessOrEqual earlier later) ∧
      ∀ word, (sort words).filter (fun other => compare other word = 0) =
        words.filter fun other => compare other word = 0 := by
  constructor
  · intro first second third
    refine ⟨compare_antisymm first second, ?_, compare_eq_sign first second, ?_, ?_, ?_, ?_⟩
    · rw [compare_nonpos_iff, compare_nonpos_iff, compare_nonpos_iff]
      exact le_trans
    · rw [compare_eq_zero_iff, totalOrderKey_eq_iff, pattern_eq_iff]
    · rw [less_iff, compare_eq_neg_one_iff]
      rintro ⟨firstNumber, secondNumber, below⟩
      exact (totalOrderKey_lt_iff firstNumber secondNumber).mpr (Or.inl below)
    · intro before firstNumber secondNumber
      rw [compare_eq_neg_one_iff, totalOrderKey_lt_iff firstNumber secondNumber] at before
      rw [less_iff, ← pattern_natCast, ← pattern_natCast]
      rcases before with below | ⟨left, right⟩
      · exact Or.inl ⟨firstNumber, secondNumber, below⟩
      · right
        rw [left, right]
        decide
    · intro isNaN notNaN
      rw [compare_eq_one_iff]
      exact totalOrderKey_lt_of_isNaN notNaN isNaN
  · intro words
    have sorted := sort_pairwise words
    refine ⟨Operation.sort_int words, sort_perm words, ?_, ?_, ?_, ?_, ?_, ?_⟩
    · exact sorted.imp (compare_nonpos_iff _ _).mpr
    · apply sorted.imp
      intro earlier later ordered last
      by_contra notNaN
      exact absurd ordered (totalOrderKey_lt_of_isNaN notNaN last).not_ge
    · have same := filter_sort words 0x8000
      simpa only [← isNaN_iff_totalOrderKey, Bool.decide_eq_true] using same
    · apply sorted.imp
      rintro earlier later ordered ⟨positive, negative⟩
      exact absurd ordered (totalOrderKey_negativeZero_lt negative positive).not_ge
    · apply sorted.imp
      intro earlier later ordered earlierNumber laterNumber
      exact (lessOrEqual_iff _ _).mpr
        ⟨earlierNumber, laterNumber, orderedKey_le_of_totalOrderKey_le earlierNumber laterNumber ordered⟩
    · intro word
      simpa only [compare_eq_zero_iff] using filter_sort words (totalOrderKey word)

/-- The two zeros between negative infinity and a NaN, and two NaNs that are sorted behind a zero in their order. -/
theorem compare_preorder_sort_zeros :
    compare (-1024) (-0x8000) ≤ 0 ∧ compare (-0x8000) 0 = -1 ∧ compare (-1024) 0 ≤ 0 ∧
      (less (-0x8000) 0 ∨ (-0x8000 : Int) % 2 ^ 16 = 0x8000 ∧ (0 : Int) % 2 ^ 16 = 0) ∧
      less (-1024) 0 ∧ compare (-1024) 0 = -1 ∧
      isNaN 0x7e00 ∧ ¬isNaN 0 ∧ compare 0x7e00 0 = 1 ∧ (sort [0x7e00, -1, 0]).filter isNaN = [0x7e00, -1] := by
  have order := compare_preorder_sort.1 (-1024) (-0x8000) 0
  have zeros := compare_preorder_sort.1 (-0x8000) 0 0
  have ends := compare_preorder_sort.1 (-1024) 0 0
  have last := compare_preorder_sort.1 0x7e00 0 0
  have sorted := compare_preorder_sort.2 [0x7e00, -1, 0]
  refine ⟨by decide, by decide, order.2.1 (by decide) (by decide), ?_, by decide, ?_, by decide, by decide, ?_, ?_⟩
  · exact zeros.2.2.2.2.2.1 (by decide) (by decide) (by decide)
  · exact ends.2.2.2.2.1 (by decide)
  · exact last.2.2.2.2.2.2 (by decide) (by decide)
  · rw [sorted.2.2.2.2.1]
    decide

end HalfPrecision.Half
