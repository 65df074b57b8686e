import HalfPrecision.Proofs.Half.TotalOrder
import Mathlib.Data.Int.Bitwise

/-!
This file shows that the smaller and the larger of words are the same in each order and grouping. Both operations pick
the operand that comes first in one direction of the total order, unless an operand is NaN.
-/

namespace HalfPrecision.Half

theorem isNaN_nan : isNaN nan := by decide

theorem pattern_pattern (word : Int) : pattern (pattern word) = pattern word := lowBits_lowBits 16 word

/-- A pattern is NaN if its word is. -/
theorem isNaN_pattern (word : Int) : isNaN (pattern word) = isNaN word := isNaN_congr (pattern_pattern word)

theorem isZero_iff (word : Int) : isZero word ↔ pattern word = 0 ∨ pattern word = 0x8000 := by
  have below := pattern_lt word
  have bit : Format.half.signBit = 0x8000 := rfl
  rw [isZero, decide_eq_true_eq, magnitude, bit]
  omega

/-- Flipping the highest of 16 bits moves a number to the other half. -/
theorem xor_signBit {number : Nat} (below : number < 0x10000) :
    number ^^^ 0x8000 = if number < 0x8000 then number + 0x8000 else number - 0x8000 := by
  have low : (number ^^^ 2 ^ 15) % 2 ^ 15 = number % 2 ^ 15 := by
    rw [Nat.xor_mod_two_pow, Nat.mod_self, Nat.xor_zero]
  have high : (number ^^^ 2 ^ 15) / 2 ^ 15 = number / 2 ^ 15 ^^^ 1 := by
    rw [Nat.xor_div_two_pow, Nat.div_self (by decide)]
  change number ^^^ 2 ^ 15 = _
  split_ifs with small
  · rw [show number / 2 ^ 15 = 0 by omega] at high
    norm_num at high low ⊢
    omega
  · rw [show number / 2 ^ 15 = 1 by omega] at high
    norm_num at high low ⊢
    omega

theorem pattern_xor_signBit (word : Int) : pattern (word.xor 0x8000) = pattern word ^^^ 0x8000 := by
  cases word with
  | ofNat number =>
      change lowBits 16 ((number ^^^ 0x8000 : Nat) : Int) = lowBits 16 (number : Int) ^^^ 0x8000
      rw [lowBits_natCast, lowBits_natCast, Nat.xor_mod_two_pow]
  | negSucc number =>
      have turned (number : Nat) : pattern (Int.negSucc number) = 0xffff - number % 2 ^ 16 := by
        have cast := pattern_natCast (Int.negSucc number)
        rw [Int.negSucc_eq] at cast ⊢
        omega
      have inside := Nat.mod_lt number (Nat.two_pow_pos 16)
      change pattern (Int.negSucc (number ^^^ 0x8000)) = pattern (Int.negSucc number) ^^^ 0x8000
      rw [turned, turned, Nat.xor_mod_two_pow, xor_signBit (by omega), xor_signBit (by omega)]
      split_ifs <;> omega

/-- An operation gives the pattern of the operand with the lower rank. Operands of one rank have one pattern, so it does
not matter which of them is picked. -/
structure Picks (rank : Int → Int) (operation : Int → Int → Nat) : Prop where
  rank_congr : ∀ {first second}, pattern first = pattern second → rank first = rank second
  pattern_congr : ∀ {first second}, ¬isNaN first → ¬isNaN second → rank first = rank second →
    pattern first = pattern second
  contaminated : ∀ {first second}, isNaN first ∨ isNaN second → operation first second = nan
  picked : ∀ {first second}, ¬isNaN first → ¬isNaN second →
    operation first second = pattern first ∧ rank first ≤ rank second ∨
      operation first second = pattern second ∧ rank second ≤ rank first

/-- All bits of two zeros are those of the lower one, and the bits they share are those of the higher one. -/
theorem zeros_cases {first second : Int} (firstZero : isZero first) (secondZero : isZero second) :
    totalOrderKey first ≤ totalOrderKey second ∧
        pattern first ||| pattern second = pattern first ∧ pattern first &&& pattern second = pattern second ∨
      totalOrderKey second ≤ totalOrderKey first ∧
        pattern first ||| pattern second = pattern second ∧ pattern first &&& pattern second = pattern first := by
  rcases (isZero_iff first).mp firstZero with left | left <;>
    rcases (isZero_iff second).mp secondZero with right | right
  · left
    rw [totalOrderKey_positiveZero left, totalOrderKey_positiveZero right, left, right]
    decide
  · right
    rw [totalOrderKey_positiveZero left, totalOrderKey_negativeZero right, left, right]
    decide
  · left
    rw [totalOrderKey_negativeZero left, totalOrderKey_positiveZero right, left, right]
    decide
  · left
    rw [totalOrderKey_negativeZero left, totalOrderKey_negativeZero right, left, right]
    decide

/-- Numbers that are not both zeros stand in the order of their values. -/
theorem totalOrderKey_lt_iff_orderedKey_lt {first second : Int} (firstNumber : ¬isNaN first)
    (secondNumber : ¬isNaN second) (zeros : ¬(isZero first ∧ isZero second)) :
    totalOrderKey first < totalOrderKey second ↔ orderedKey first < orderedKey second := by
  rw [totalOrderKey_lt_iff firstNumber secondNumber, or_iff_left]
  rintro ⟨negative, positive⟩
  exact zeros ⟨(isZero_iff first).mpr (Or.inr negative), (isZero_iff second).mpr (Or.inl positive)⟩

theorem min_picks : Picks totalOrderKey min where
  rank_congr := totalOrderKey_congr
  pattern_congr := pattern_eq_of_totalOrderKey_eq
  contaminated := fun isNaN => if_pos (by simpa using isNaN)
  picked := by
    intro first second firstNumber secondNumber
    simp only [min, firstNumber, secondNumber, Bool.or_self, Bool.false_eq_true, if_false, Bool.and_eq_true]
    split_ifs with zeros less
    · rcases zeros_cases zeros.1 zeros.2 with ⟨lower, joined, -⟩ | ⟨lower, joined, -⟩
      · exact Or.inl ⟨joined, lower⟩
      · exact Or.inr ⟨joined, lower⟩
    · have below := totalOrderKey_lt_iff_orderedKey_lt secondNumber firstNumber fun swapped => zeros swapped.symm
      exact Or.inr ⟨rfl, (below.mpr less).le⟩
    · have below := totalOrderKey_lt_iff_orderedKey_lt secondNumber firstNumber fun swapped => zeros swapped.symm
      exact Or.inl ⟨rfl, not_lt.mp (mt below.mp less)⟩

theorem max_picks : Picks (fun word => -totalOrderKey word) max where
  rank_congr := fun same => congrArg Neg.neg (totalOrderKey_congr same)
  pattern_congr := fun firstNumber secondNumber same =>
    pattern_eq_of_totalOrderKey_eq firstNumber secondNumber (neg_inj.mp same)
  contaminated := fun isNaN => if_pos (by simpa using isNaN)
  picked := by
    intro first second firstNumber secondNumber
    simp only [max, firstNumber, secondNumber, Bool.or_self, Bool.false_eq_true, if_false, Bool.and_eq_true,
      neg_le_neg_iff]
    split_ifs with zeros less
    · rcases zeros_cases zeros.1 zeros.2 with ⟨lower, -, shared⟩ | ⟨lower, -, shared⟩
      · exact Or.inr ⟨shared, lower⟩
      · exact Or.inl ⟨shared, lower⟩
    · have below := totalOrderKey_lt_iff_orderedKey_lt firstNumber secondNumber zeros
      exact Or.inr ⟨rfl, (below.mpr less).le⟩
    · have below := totalOrderKey_lt_iff_orderedKey_lt firstNumber secondNumber zeros
      exact Or.inl ⟨rfl, not_lt.mp (mt below.mp less)⟩

/-- Words that are put together two by two. -/
inductive Grouping where
  | word (word : Int)
  | pair (first second : Grouping)

namespace Grouping

/-- The words from left to right. -/
def words : Grouping → List Int
  | .word single => [single]
  | .pair first second => first.words ++ second.words

/-- The result of an operation on all pairs. A single word is left as it is. -/
def combined (operation : Int → Int → Nat) : Grouping → Int
  | .word single => single
  | .pair first second => operation (first.combined operation) (second.combined operation)

theorem eq_pair {grouping : Grouping} (several : 2 ≤ grouping.words.length) :
    ∃ first second, grouping = pair first second := by
  cases grouping with
  | word single => simp [words] at several
  | pair first second => exact ⟨first, second, rfl⟩

end Grouping

/-- The result has the pattern of a word of the lowest rank, and is NaN if one of the words is. -/
structure Leads (rank : Int → Int) (words : List Int) (result : Int) : Prop where
  contaminated : (∃ word ∈ words, isNaN word) → isNaN result
  picked : (∀ word ∈ words, ¬isNaN word) →
    ∃ word ∈ words, pattern result = pattern word ∧ ∀ other ∈ words, rank word ≤ rank other

namespace Picks

variable {rank : Int → Int} {operation : Int → Int → Nat} (picks : Picks rank operation) {first second : Int}

include picks

theorem eq_left (firstNumber : ¬isNaN first) (secondNumber : ¬isNaN second) (lower : rank first ≤ rank second) :
    operation first second = pattern first := by
  rcases picks.picked firstNumber secondNumber with ⟨left, -⟩ | ⟨right, reached⟩
  · exact left
  · rw [right, picks.pattern_congr firstNumber secondNumber (le_antisymm lower reached)]

theorem eq_right (firstNumber : ¬isNaN first) (secondNumber : ¬isNaN second) (lower : rank second ≤ rank first) :
    operation first second = pattern second := by
  rcases picks.picked firstNumber secondNumber with ⟨left, reached⟩ | ⟨right, -⟩
  · rw [left, picks.pattern_congr firstNumber secondNumber (le_antisymm reached lower)]
  · exact right

/-- One application leads the words that its operands lead. -/
theorem leads_append {left right : List Int} (leadsLeft : Leads rank left first)
    (leadsRight : Leads rank right second) :
    Leads rank (left ++ right) (operation first second) where
  contaminated := by
    rintro ⟨word, inside, isNaN⟩
    have operands : Half.isNaN first ∨ Half.isNaN second := by
      rcases List.mem_append.mp inside with before | after
      · exact Or.inl (leadsLeft.contaminated ⟨word, before, isNaN⟩)
      · exact Or.inr (leadsRight.contaminated ⟨word, after, isNaN⟩)
    rw [picks.contaminated operands]
    exact isNaN_nan
  picked := by
    intro numbers
    obtain ⟨word, inLeft, sameLeft, lowestLeft⟩ :=
      leadsLeft.picked fun word inside => numbers word (List.mem_append_left right inside)
    obtain ⟨other, inRight, sameRight, lowestRight⟩ :=
      leadsRight.picked fun word inside => numbers word (List.mem_append_right left inside)
    have firstNumber : ¬isNaN first := isNaN_congr sameLeft ▸ numbers word (List.mem_append_left right inLeft)
    have secondNumber : ¬isNaN second := isNaN_congr sameRight ▸ numbers other (List.mem_append_right left inRight)
    have rankLeft := picks.rank_congr sameLeft
    have rankRight := picks.rank_congr sameRight
    -- The leader of the side that is picked leads the other side too.
    rcases picks.picked firstNumber secondNumber with ⟨result, lower⟩ | ⟨result, lower⟩
    · refine ⟨word, List.mem_append_left right inLeft, by rw [result, pattern_pattern, sameLeft], ?_⟩
      intro candidate inside
      rcases List.mem_append.mp inside with before | after
      · exact lowestLeft candidate before
      · have reached := lowestRight candidate after
        omega
    · refine ⟨other, List.mem_append_right left inRight, by rw [result, pattern_pattern, sameRight], ?_⟩
      intro candidate inside
      rcases List.mem_append.mp inside with before | after
      · have reached := lowestLeft candidate before
        omega
      · exact lowestRight candidate after

theorem leads_combined (grouping : Grouping) : Leads rank grouping.words (grouping.combined operation) := by
  induction grouping with
  | word single =>
      constructor
      · rintro ⟨word, inside, isNaN⟩
        rw [Grouping.words, List.mem_singleton] at inside
        exact inside ▸ isNaN
      · intro _
        exact ⟨single, by simp [Grouping.words], rfl, by simp [Grouping.words]⟩
  | pair first second leadsFirst leadsSecond => exact picks.leads_append leadsFirst leadsSecond

section Numbers

variable (firstNumber : ¬isNaN first) (secondNumber : ¬isNaN second)

include firstNumber secondNumber

theorem isNaN_operation : ¬isNaN (operation first second) := by
  rcases picks.picked firstNumber secondNumber with ⟨result, -⟩ | ⟨result, -⟩
  · rwa [result, isNaN_pattern]
  · rwa [result, isNaN_pattern]

theorem rank_operation_le : rank (operation first second) ≤ rank first := by
  rcases picks.picked firstNumber secondNumber with ⟨result, -⟩ | ⟨result, lower⟩
  · rw [result, picks.rank_congr (pattern_pattern first)]
  · rwa [result, picks.rank_congr (pattern_pattern second)]

/-- The opposite operation takes an operand back. -/
theorem absorbed {opposite : Int → Int → Nat} (picksOpposite : Picks (fun word => -rank word) opposite) :
    opposite first (operation first second) = pattern first :=
  picksOpposite.eq_left firstNumber (picks.isNaN_operation firstNumber secondNumber)
    (neg_le_neg (picks.rank_operation_le firstNumber secondNumber))

end Numbers

/-- An application gives a pattern, and always the same NaN. -/
theorem operation_eq (first second : Int) :
    operation first second = if isNaN (operation first second) then nan else pattern (operation first second) := by
  by_cases isNaN : isNaN first ∨ isNaN second
  · rw [picks.contaminated isNaN, if_pos isNaN_nan]
  · obtain ⟨firstNumber, secondNumber⟩ := not_or.mp isNaN
    rcases picks.picked firstNumber secondNumber with ⟨result, -⟩ | ⟨result, -⟩
    · rw [result, isNaN_pattern, if_neg firstNumber, pattern_pattern]
    · rw [result, isNaN_pattern, if_neg secondNumber, pattern_pattern]

section Combined

variable {grouping : Grouping} (several : 2 ≤ grouping.words.length)

include several

theorem combined_eq : grouping.combined operation =
    if isNaN (grouping.combined operation) then nan else pattern (grouping.combined operation) := by
  obtain ⟨left, right, rfl⟩ := Grouping.eq_pair several
  exact congrArg Nat.cast (picks.operation_eq (left.combined operation) (right.combined operation))

theorem combined_eq_nan (isNaN : ∃ word ∈ grouping.words, isNaN word) : grouping.combined operation = nan := by
  rw [picks.combined_eq several, if_pos ((picks.leads_combined grouping).contaminated isNaN)]

theorem combined_eq_pattern (numbers : ∀ word ∈ grouping.words, ¬isNaN word) :
    ∃ word ∈ grouping.words, grouping.combined operation = pattern word ∧
      ∀ other ∈ grouping.words, rank word ≤ rank other := by
  obtain ⟨word, inside, same, lowest⟩ := (picks.leads_combined grouping).picked numbers
  have number : ¬Half.isNaN (grouping.combined operation) := isNaN_congr same ▸ numbers word inside
  refine ⟨word, inside, ?_, lowest⟩
  rw [picks.combined_eq several, if_neg number, same]

/-- The result depends neither on the order of the words nor on the pairs that are made of them. -/
theorem combined_perm {other : Grouping} (perm : grouping.words.Perm other.words) :
    grouping.combined operation = other.combined operation := by
  have severalOther : 2 ≤ other.words.length := perm.length_eq ▸ several
  by_cases contaminated : ∃ word ∈ grouping.words, isNaN word
  · rw [picks.combined_eq_nan several contaminated, picks.combined_eq_nan severalOther]
    obtain ⟨word, inside, isNaN⟩ := contaminated
    exact ⟨word, perm.mem_iff.mp inside, isNaN⟩
  · have numbers : ∀ word ∈ grouping.words, ¬isNaN word := by simpa using contaminated
    obtain ⟨word, inside, result, lowest⟩ := picks.combined_eq_pattern several numbers
    obtain ⟨otherWord, insideOther, otherResult, lowestOther⟩ :=
      picks.combined_eq_pattern severalOther fun word inside => numbers word (perm.mem_iff.mpr inside)
    have below := lowest otherWord (perm.mem_iff.mpr insideOther)
    have above := lowestOther word (perm.mem_iff.mp inside)
    rw [result, otherResult, picks.pattern_congr (numbers word inside)
      (numbers otherWord (perm.mem_iff.mpr insideOther)) (le_antisymm below above)]

end Combined

theorem comm (first second : Int) : operation first second = operation second first := by
  have perm : (Grouping.pair (.word first) (.word second)).combined operation =
      (Grouping.pair (.word second) (.word first)).combined operation :=
    picks.combined_perm le_rfl (List.Perm.swap second first [])
  exact Int.ofNat_inj.mp perm

theorem assoc (first second third : Int) :
    operation (operation first second) third = operation first (operation second third) := by
  have perm : (Grouping.pair (.pair (.word first) (.word second)) (.word third)).combined operation =
      (Grouping.pair (.word first) (.pair (.word second) (.word third))).combined operation :=
    picks.combined_perm (by simp [Grouping.words]) (List.Perm.refl [first, second, third])
  exact Int.ofNat_inj.mp perm

end Picks

theorem isNaN_xor_signBit (word : Int) : isNaN (word.xor 0x8000) = isNaN word := by
  have below := pattern_lt word
  have flipped := pattern_xor_signBit word
  rw [xor_signBit below] at flipped
  have bit : Format.half.signBit = 0x8000 := rfl
  simp only [isNaN, magnitude, bit, flipped]
  congr 1
  split_ifs <;> apply propext <;> omega

/-- Flipping the sign turns the total order of the numbers around. -/
theorem totalOrderKey_xor_signBit {word : Int} (notNaN : ¬isNaN word) :
    totalOrderKey (word.xor 0x8000) = -1 - totalOrderKey word := by
  have below := pattern_lt word
  have flipped := pattern_xor_signBit word
  rw [xor_signBit below] at flipped
  rw [totalOrderKey_of_not_isNaN notNaN, totalOrderKey_of_not_isNaN (isNaN_xor_signBit word ▸ notNaN), flipped]
  split_ifs <;> omega

/-- The negative zero is the smaller one of two zeros. -/
theorem min_max_zeros {first second : Int} (negative : first % 2 ^ 16 = 0x8000) (positive : second % 2 ^ 16 = 0) :
    min first second = 0x8000 ∧ max first second = 0 := by
  have left : pattern first = pattern 0x8000 := (pattern_eq_iff first 0x8000).mpr negative
  have right : pattern second = pattern 0 := (pattern_eq_iff second 0).mpr positive
  have firstNumber : ¬isNaN first := isNaN_congr left ▸ (by decide : ¬isNaN 0x8000)
  have secondNumber : ¬isNaN second := isNaN_congr right ▸ (by decide : ¬isNaN 0)
  have lower := (totalOrderKey_negativeZero_lt negative positive).le
  constructor
  · rw [min_picks.eq_left firstNumber secondNumber lower, left]
    rfl
  · rw [max_picks.eq_right firstNumber secondNumber (neg_le_neg lower), right]
    rfl

section Lattice

variable {first second : Int} (firstNumber : ¬isNaN first) (secondNumber : ¬isNaN second)

include firstNumber secondNumber

theorem max_min : max first (min first second) = pattern first :=
  min_picks.absorbed firstNumber secondNumber max_picks

theorem min_max : min first (max first second) = pattern first := by
  apply max_picks.absorbed firstNumber secondNumber
  simpa only [neg_neg] using min_picks

/-- Flipping the signs turns the smaller word into the larger one. -/
theorem min_xor_signBit : min first second ^^^ 0x8000 = max (first.xor 0x8000) (second.xor 0x8000) := by
  have firstFlipped : ¬isNaN (first.xor 0x8000) := isNaN_xor_signBit first ▸ firstNumber
  have secondFlipped : ¬isNaN (second.xor 0x8000) := isNaN_xor_signBit second ▸ secondNumber
  have firstKey := totalOrderKey_xor_signBit firstNumber
  have secondKey := totalOrderKey_xor_signBit secondNumber
  rcases min_picks.picked firstNumber secondNumber with ⟨result, lower⟩ | ⟨result, lower⟩
  · rw [result, max_picks.eq_left firstFlipped secondFlipped (by omega), pattern_xor_signBit]
  · rw [result, max_picks.eq_right firstFlipped secondFlipped (by omega), pattern_xor_signBit]

theorem lessOrEqual_min : lessOrEqual (min first second) first := by
  have number := min_picks.isNaN_operation firstNumber secondNumber
  have lower := min_picks.rank_operation_le firstNumber secondNumber
  exact (lessOrEqual_iff _ _).mpr ⟨number, firstNumber, orderedKey_le_of_totalOrderKey_le number firstNumber lower⟩

theorem lessOrEqual_max : lessOrEqual first (max first second) := by
  have number := max_picks.isNaN_operation firstNumber secondNumber
  have upper := neg_le_neg_iff.mp (max_picks.rank_operation_le firstNumber secondNumber)
  exact (lessOrEqual_iff _ _).mpr ⟨firstNumber, number, orderedKey_le_of_totalOrderKey_le firstNumber number upper⟩

end Lattice

/-- The smaller and the larger of words are the lowest and the highest of them in the total order, whatever their order
is and however they are paired. A NaN among the words makes both NaN. -/
theorem min_max_lattice :
    (∀ (words : List Int) (grouping : Grouping), 2 ≤ words.length → grouping.words.Perm words →
      ((∃ word ∈ words, isNaN word) → grouping.combined min = 0x7e00 ∧ grouping.combined max = 0x7e00) ∧
      ((∀ word ∈ words, ¬isNaN word) →
        (∃ word ∈ words, grouping.combined min = word % 2 ^ 16 ∧
          ∀ other ∈ words, totalOrderKey word ≤ totalOrderKey other) ∧
        ∃ word ∈ words, grouping.combined max = word % 2 ^ 16 ∧
          ∀ other ∈ words, totalOrderKey other ≤ totalOrderKey word)) ∧
    (∀ first second third : Int,
      min first second = min second first ∧
      max first second = max second first ∧
      min (min first second) third = min first (min second third) ∧
      max (max first second) third = max first (max second third) ∧
      (first % 2 ^ 16 = 0x8000 → second % 2 ^ 16 = 0 → min first second = 0x8000 ∧ max first second = 0)) ∧
    ∀ first second : Int, ¬isNaN first → ¬isNaN second →
      (max first (min first second) : Int) = first % 2 ^ 16 ∧
      (min first (max first second) : Int) = first % 2 ^ 16 ∧
      min first second ^^^ 0x8000 = max (first.xor 0x8000) (second.xor 0x8000) ∧
      lessOrEqual (min first second) first ∧
      lessOrEqual first (max first second) := by
  refine ⟨?_, ?_, ?_⟩
  · intro words grouping several perm
    rw [← perm.length_eq] at several
    simp only [← perm.mem_iff]
    constructor
    · intro contaminated
      rw [min_picks.combined_eq_nan several contaminated, max_picks.combined_eq_nan several contaminated]
      exact ⟨rfl, rfl⟩
    · intro numbers
      obtain ⟨least, inside, result, lowest⟩ := min_picks.combined_eq_pattern several numbers
      obtain ⟨greatest, insideGreatest, greatestResult, highest⟩ := max_picks.combined_eq_pattern several numbers
      refine ⟨⟨least, inside, ?_, lowest⟩, ⟨greatest, insideGreatest, ?_, ?_⟩⟩
      · rw [result, pattern_natCast]
      · rw [greatestResult, pattern_natCast]
      · intro other insideOther
        exact neg_le_neg_iff.mp (highest other insideOther)
  · intro first second third
    exact ⟨min_picks.comm first second, max_picks.comm first second, min_picks.assoc first second third,
      max_picks.assoc first second third, min_max_zeros⟩
  · intro first second firstNumber secondNumber
    rw [max_min firstNumber secondNumber, min_max firstNumber secondNumber, pattern_natCast]
    exact ⟨rfl, rfl, min_xor_signBit firstNumber secondNumber, lessOrEqual_min firstNumber secondNumber,
      lessOrEqual_max firstNumber secondNumber⟩

/-- Three numbers with both zeros among them, a NaN in the middle, and a word that is absorbed to its low bits. -/
theorem min_max_lattice_zeros :
    (∃ word ∈ [0x13c00, -0x8000, 0], ((min 0x13c00 (min 0 (-0x8000)) : Nat) : Int) = word % 2 ^ 16 ∧
      ∀ other ∈ [0x13c00, -0x8000, 0], totalOrderKey word ≤ totalOrderKey other) ∧
    ((max (max 1 (-1)) 2 : Nat) : Int) = 0x7e00 ∧
    min (-0x8000) 0x10000 = 0x8000 ∧
    ¬isNaN 0x13c00 ∧ ((max 0x13c00 (min 0x13c00 (-0x8000)) : Nat) : Int) = 0x13c00 % 2 ^ 16 := by
  have numbers := min_max_lattice.1 [0x13c00, -0x8000, 0] (.pair (.word 0x13c00) (.pair (.word 0) (.word (-0x8000))))
    (by decide) (by decide)
  have contaminated := min_max_lattice.1 [-1, 1, 2] (.pair (.pair (.word 1) (.word (-1))) (.word 2))
    (by decide) (by decide)
  have zeros := min_max_lattice.2.1 (-0x8000) 0x10000 0
  have absorbed := min_max_lattice.2.2 0x13c00 (-0x8000) (by decide) (by decide)
  exact ⟨(numbers.2 (by decide)).1, (contaminated.1 (by decide)).2, (zeros.2.2.2.2 (by decide) (by decide)).1,
    by decide, absorbed.1⟩

end HalfPrecision.Half
