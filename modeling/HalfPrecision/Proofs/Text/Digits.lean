import HalfPrecision.Word
import Mathlib.Tactic

/-!
This file shows that a number is written in hexadecimal by lowercase digits that tell the number, where each zero at the
end stands for a factor of sixteen. In decimal an integer is written by digits and a minus sign.
-/

namespace HalfPrecision

/-- Neither letters nor spaces stand in a decimal integer. -/
theorem notMem_repr {character : Char} (noDigit : character.isDigit = false) (noSign : character ≠ '-') (number : Int) :
    character ∉ number.repr.toList := by
  have digits (natural : Nat) : character ∉ Nat.toDigits 10 natural := by
    intro inside
    have isDigit := Nat.isDigit_of_mem_toDigits (by decide) (by decide) inside
    rw [noDigit] at isDigit
    exact Bool.false_ne_true isDigit
  rw [Int.repr_eq_if]
  split_ifs
  · simpa using digits number.toNat
  · simpa [noSign] using digits (-number).toNat

theorem hexDigits_of_lt {digit : Nat} (single : digit < 16) : hexDigits digit = [Nat.digitChar digit] :=
  Nat.toDigits_of_lt_base single

/-- The last digit of a number of several digits is its remainder. -/
theorem hexDigits_of_le {number : Nat} (several : 16 ≤ number) :
    hexDigits number = hexDigits (number / 16) ++ [Nat.digitChar (number % 16)] :=
  Nat.toDigits_of_base_le (by decide) several

theorem hexDigits_ne_nil (number : Nat) : hexDigits number ≠ [] := Nat.toDigits_ne_nil

theorem length_hexDigits_pos (number : Nat) : 1 ≤ (hexDigits number).length := Nat.length_toDigits_pos

theorem length_hexDigits_le_iff (number : Nat) {count : Nat} (positive : 0 < count) :
    (hexDigits number).length ≤ count ↔ number < 16 ^ count :=
  Nat.length_toDigits_le_iff (by decide) positive

/-- Sixteen times a number has one more zero. -/
theorem hexDigits_sixteen_mul {number : Nat} (positive : 0 < number) :
    hexDigits (16 * number) = hexDigits number ++ ['0'] := by
  rw [hexDigits_of_le (by omega), Nat.mul_div_cancel_left number (by decide), Nat.mul_mod_right]
  rfl

theorem hexDigits_pow_mul {number : Nat} (positive : 0 < number) (count : Nat) :
    hexDigits (16 ^ count * number) = hexDigits number ++ List.replicate count '0' := by
  induction count with
  | zero => simp
  | succ count ih =>
      have product : 0 < 16 ^ count * number := by positivity
      rw [pow_succ', mul_assoc, hexDigits_sixteen_mul product, ih, List.append_assoc, ← List.replicate_succ']

/-- The digits of a number end in its remainder, and the other digits are those of its quotient. -/
theorem hexDigits_eq_concat {number : Nat} {front : List Char} {last : Char}
    (digits : hexDigits number = front ++ [last]) :
    last = Nat.digitChar (number % 16) ∧
      (number < 16 ∧ front = [] ∨ 16 ≤ number ∧ front = hexDigits (number / 16)) := by
  rcases Nat.lt_or_ge number 16 with single | several
  · rw [hexDigits_of_lt single, ← List.nil_append [Nat.digitChar number]] at digits
    obtain ⟨none, same⟩ := List.append_singleton_inj.mp digits.symm
    exact ⟨by rw [same, Nat.mod_eq_of_lt single], Or.inl ⟨single, none⟩⟩
  · rw [hexDigits_of_le several] at digits
    obtain ⟨others, same⟩ := List.append_singleton_inj.mp digits.symm
    exact ⟨same, Or.inr ⟨several, others⟩⟩

theorem exists_hexDigits_eq_concat (number : Nat) :
    ∃ front, hexDigits number = front ++ [Nat.digitChar (number % 16)] := by
  rcases Nat.lt_or_ge number 16 with single | several
  · exact ⟨[], by rw [hexDigits_of_lt single, Nat.mod_eq_of_lt single, List.nil_append]⟩
  · exact ⟨_, hexDigits_of_le several⟩

theorem digitChar_inj_of_lt {first second : Nat} (left : first < 16) (right : second < 16)
    (same : Nat.digitChar first = Nat.digitChar second) : first = second := by
  have each : ∀ first < 16, ∀ second < 16, Nat.digitChar first = Nat.digitChar second → first = second := by decide
  exact each first left second right same

/-- The digits tell the number. -/
theorem hexDigits_injective : Function.Injective hexDigits := by
  intro first
  induction first using Nat.strongRecOn with
  | _ first ih =>
      intro second same
      obtain ⟨front, digits⟩ := exists_hexDigits_eq_concat second
      obtain ⟨last, place⟩ := hexDigits_eq_concat (same.trans digits)
      obtain ⟨-, otherPlace⟩ := hexDigits_eq_concat digits
      have remainders : second % 16 = first % 16 :=
        digitChar_inj_of_lt (Nat.mod_lt _ (by decide)) (Nat.mod_lt _ (by decide)) last
      rcases place with ⟨single, none⟩ | ⟨several, others⟩ <;> rcases otherPlace with ⟨small, empty⟩ | ⟨large, rest⟩
      · omega
      · exact absurd (rest.symm.trans none) (hexDigits_ne_nil _)
      · exact absurd (others.symm.trans empty) (hexDigits_ne_nil _)
      · have quotients := ih (first / 16) (Nat.div_lt_self (by omega) (by decide)) (others.symm.trans rest)
        omega

/-- The digits of which hexadecimal texts are made. -/
def hexAlphabet : List Char := "0123456789abcdef".toList

theorem digitChar_mem_hexAlphabet {digit : Nat} (single : digit < 16) : Nat.digitChar digit ∈ hexAlphabet := by
  have each : ∀ digit < 16, Nat.digitChar digit ∈ hexAlphabet := by decide
  exact each digit single

theorem mem_hexAlphabet_of_mem_hexDigits {number : Nat} {digit : Char} (inside : digit ∈ hexDigits number) :
    digit ∈ hexAlphabet := by
  induction number using Nat.strongRecOn with
  | _ number ih =>
      rcases Nat.lt_or_ge number 16 with single | several
      · rw [hexDigits_of_lt single, List.mem_singleton] at inside
        exact inside ▸ digitChar_mem_hexAlphabet single
      · rw [hexDigits_of_le several, List.mem_append, List.mem_singleton] at inside
        rcases inside with earlier | last
        · exact ih _ (Nat.div_lt_self (by omega) (by decide)) earlier
        · exact last ▸ digitChar_mem_hexAlphabet (Nat.mod_lt _ (by decide))

/-- A character that is no digit stands in no number. -/
theorem notMem_hexDigits {character : Char} (other : character ∉ hexAlphabet) (number : Nat) :
    character ∉ hexDigits number :=
  fun inside => other (mem_hexAlphabet_of_mem_hexDigits inside)

/-- A number whose digits end in two zeros is a positive multiple of 256. -/
theorem of_zeros_suffix_hexDigits {number : Nat} (zeros : ['0', '0'] <:+ hexDigits number) :
    number ≠ 0 ∧ number % 256 = 0 := by
  obtain ⟨front, digits⟩ := zeros
  have split : hexDigits number = (front ++ ['0']) ++ ['0'] := by
    rw [← digits, List.append_assoc]
    rfl
  obtain ⟨last, ⟨-, none⟩ | ⟨several, others⟩⟩ := hexDigits_eq_concat split
  · simp at none
  · obtain ⟨next, -⟩ := hexDigits_eq_concat others.symm
    rw [Nat.zero_eq_digitChar] at last next
    omega

end HalfPrecision
