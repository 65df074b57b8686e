import HalfPrecision.Proofs.Format.Layout
import HalfPrecision.Proofs.Text.Digits
import Mathlib

/-!
This file shows which number hexadecimal digits spell. The digits written for a number spell it, with zeros in front or
not, and digits of equal count are ordered as the numbers that they spell.
-/

namespace HalfPrecision

/-- Appends a digit to a number. Letters may be large. -/
def pushHexDigit (value : Nat) (digit : Char) : Nat := 16 * value + hexAlphabet.idxOf digit.toLower

/-- The number that hexadecimal digits spell. -/
def hexValue (digits : List Char) : Nat := digits.foldl pushHexDigit 0

theorem hexValue_concat (front : List Char) (last : Char) :
    hexValue (front ++ [last]) = 16 * hexValue front + hexAlphabet.idxOf last.toLower := by
  simp [hexValue, pushHexDigit]

theorem toLower_of_mem_hexAlphabet {digit : Char} (known : digit ∈ hexAlphabet) : digit.toLower = digit := by
  have each : hexAlphabet.all fun digit => digit.toLower == digit := by decide
  exact eq_of_beq (List.all_eq_true.mp each digit known)

theorem idxOf_lt_of_mem_hexAlphabet {digit : Char} (known : digit ∈ hexAlphabet) : hexAlphabet.idxOf digit < 16 :=
  List.idxOf_lt_length_of_mem known

theorem idxOf_digitChar {digit : Nat} (single : digit < 16) :
    hexAlphabet.idxOf (Nat.digitChar digit).toLower = digit := by
  have each : ∀ digit < 16, hexAlphabet.idxOf (Nat.digitChar digit).toLower = digit := by decide
  exact each digit single

/-- The digits written for a number spell it. -/
@[simp]
theorem hexValue_hexDigits (number : Nat) : hexValue (hexDigits number) = number := by
  induction number using Nat.strongRecOn with
  | _ number ih =>
      rcases Nat.lt_or_ge number 16 with single | several
      · rw [hexDigits_of_lt single, ← List.nil_append [Nat.digitChar number], hexValue_concat, idxOf_digitChar single]
        simp [hexValue]
      · have smaller : number / 16 < number := Nat.div_lt_self (by omega) (by decide)
        rw [hexDigits_of_le several, hexValue_concat, ih _ smaller, idxOf_digitChar (Nat.mod_lt _ (by decide))]
        exact Nat.div_add_mod number 16

/-- Zeros in front of digits count nothing. -/
@[simp]
theorem hexValue_padZeros (count : Nat) (digits : List Char) : hexValue (padZeros count digits) = hexValue digits := by
  have zeros (many : Nat) : (List.replicate many '0').foldl pushHexDigit 0 = 0 := by
    induction many with
    | zero => rfl
    | succ many ih =>
        rw [List.replicate_succ, List.foldl_cons]
        exact ih
  simp [hexValue, padZeros, zeros]

theorem mem_hexAlphabet_of_mem_padZeros {count number : Nat} {digit : Char}
    (inside : digit ∈ padZeros count (hexDigits number)) : digit ∈ hexAlphabet := by
  rw [padZeros, List.mem_append, List.mem_replicate] at inside
  rcases inside with ⟨-, rfl⟩ | digits
  · decide
  · exact mem_hexAlphabet_of_mem_hexDigits digits

section Field

variable (length : Nat) (word : Int)

theorem toList_hexField :
    (hexField length word).toList = padZeros (length / 4) (hexDigits (lowBits length word)) := String.toList_ofList

theorem mem_hexAlphabet_of_mem_hexField {digit : Char} (inside : digit ∈ (hexField length word).toList) :
    digit ∈ hexAlphabet := by
  rw [toList_hexField] at inside
  exact mem_hexAlphabet_of_mem_padZeros inside

theorem hexValue_hexField : hexValue (hexField length word).toList = lowBits length word := by
  rw [toList_hexField, hexValue_padZeros, hexValue_hexDigits]

/-- If the bits make up whole digits, there are no other ones. -/
theorem length_hexField_of_dvd (positive : 0 < length) (whole : 4 ∣ length) :
    (hexField length word).length = length / 4 := by
  obtain ⟨count, rfl⟩ := whole
  have below : lowBits (4 * count) word < 16 ^ count := by
    rw [show 16 = 2 ^ 4 by rfl, ← pow_mul]
    exact lowBits_lt_two_pow (4 * count) word
  have few := (length_hexDigits_le_iff (lowBits (4 * count) word) (by omega)).mpr below
  rw [← String.length_toList, toList_hexField, length_padZeros,
    Nat.mul_div_cancel_left count (by decide), max_eq_left few]

end Field

end HalfPrecision
