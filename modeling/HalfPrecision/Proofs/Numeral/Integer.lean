import HalfPrecision.Proofs.Text.Hexadecimal
import HalfPrecision.Proofs.Text.Visible

/-!
This file shows that each integer is read from its hexadecimal digits with the mark of the base in front, whatever the
case of the letters. The sign decides nothing but the sign of the integer.
-/

namespace HalfPrecision.Numeral

/-- Whether a character is a hexadecimal digit of either case. -/
def IsHexDigit (character : Char) : Prop := character.toLower ∈ hexAlphabet

theorem isHexDigit_of_mem_hexAlphabet {digit : Char} (known : digit ∈ hexAlphabet) : IsHexDigit digit := by
  rwa [IsHexDigit, toLower_of_mem_hexAlphabet known]

/-- A letter that is large is 32 places in front of the small one. -/
theorem toNat_toLower_of_isUpper {character : Char} (upper : character.isUpper) :
    65 ≤ character.toNat ∧ character.toLower.toNat = character.toNat + 32 := by
  rw [Char.isUpper, decide_eq_true_eq] at upper
  have first : 65 ≤ character.toNat := UInt32.le_iff_toNat_le.mp upper.1
  have last : character.val.toNat ≤ 90 := UInt32.le_iff_toNat_le.mp upper.2
  refine ⟨first, ?_⟩
  rw [Char.toLower, dif_pos upper]
  change (character.val + 32).toNat = character.val.toNat + 32
  rw [UInt32.toNat_add]
  have shift : (32 : UInt32).toNat = 32 := rfl
  omega

section Digit

variable {character : Char} (known : IsHexDigit character)

include known

/-- There are six large digits. -/
theorem mem_of_isHexDigit : character ∈ hexAlphabet ++ ['A', 'B', 'C', 'D', 'E', 'F'] := by
  rw [List.mem_append]
  by_cases upper : character.isUpper
  · obtain ⟨first, code⟩ := toNat_toLower_of_isUpper upper
    have each : hexAlphabet.all fun digit => decide (digit.toNat ≤ 102) := by decide
    have last := of_decide_eq_true (List.all_eq_true.mp each _ known)
    have bound : character.toNat ≤ 70 := by omega
    right
    rw [← Char.ofNat_toNat character]
    interval_cases character.toNat <;> decide
  · left
    rw [Char.isUpper, decide_eq_true_eq] at upper
    rwa [IsHexDigit, Char.toLower, dif_neg upper] at known

theorem isVisible_of_isHexDigit : Text.isVisible character := by
  have each : (hexAlphabet ++ ['A', 'B', 'C', 'D', 'E', 'F']).all Text.isVisible := by decide
  exact List.all_eq_true.mp each character (mem_of_isHexDigit known)

theorem ne_underscore_of_isHexDigit : character ≠ '_' := by
  rintro rfl
  revert known
  unfold IsHexDigit
  decide

/-- A digit is read as its place in the alphabet. -/
theorem digitValue?_of_isHexDigit : digitValue? character = some (hexAlphabet.idxOf character.toLower) := by
  have each : (hexAlphabet ++ ['A', 'B', 'C', 'D', 'E', 'F']).all fun character =>
      digitValue? character == some (hexAlphabet.idxOf character.toLower) := by decide
  exact eq_of_beq (List.all_eq_true.mp each character (mem_of_isHexDigit known))

/-- A digit is appended to the number read before it, at the start and behind another digit. -/
theorem readDigits_cons (afterDigit : Bool) (value : Nat) (rest : List Char) :
    readDigits 16 afterDigit value (character :: rest) = readDigits 16 true (pushHexDigit value character) rest := by
  have small : hexAlphabet.idxOf character.toLower < 16 := idxOf_lt_of_mem_hexAlphabet known
  simp [readDigits, ne_underscore_of_isHexDigit known, digitValue?_of_isHexDigit known, small, pushHexDigit,
    Nat.mul_comm]

end Digit

section Digits

variable {digits : List Char} (known : ∀ digit ∈ digits, IsHexDigit digit)

include known

theorem readDigits_foldl (value : Nat) : readDigits 16 true value digits = some (digits.foldl pushHexDigit value) := by
  induction digits generalizing value with
  | nil => rfl
  | cons digit rest ih =>
      obtain ⟨first, others⟩ := List.forall_mem_cons.mp known
      rw [readDigits_cons first, ih others, List.foldl_cons]

theorem readDigits_hexValue (nonempty : digits ≠ []) : readDigits 16 false 0 digits = some (hexValue digits) := by
  cases digits with
  | nil => exact absurd rfl nonempty
  | cons digit rest =>
      obtain ⟨first, others⟩ := List.forall_mem_cons.mp known
      rw [readDigits_cons first, readDigits_foldl others]
      rfl

/-- No underscore follows the mark of the base, so only the mark is dropped. -/
theorem dropBaseMark_hexadecimal {mark : Char} (marked : mark = 'x' ∨ mark = 'X') :
    dropBaseMark 16 ('0' :: mark :: digits) = digits := by
  have letter : baseMark? 16 = some mark.toLower := by rcases marked with rfl | rfl <;> rfl
  simp only [dropBaseMark, letter, if_true]
  split
  · exact absurd rfl (ne_underscore_of_isHexDigit (known '_' List.mem_cons_self))
  · rfl

/-- An integer is read from a sign, the mark of the base and digits. -/
theorem readInteger_hexadecimal (nonempty : digits ≠ []) {mark : Char} (marked : mark = 'x' ∨ mark = 'X')
    {sign : List Char} (signed : sign = ['-'] ∨ sign = ['+'] ∨ sign = []) {text : String}
    (spelled : text.toList = sign ++ '0' :: mark :: digits) :
    readInteger 16 text = .ok (if sign = ['-'] then -(hexValue digits : Int) else hexValue digits) := by
  have visible : ∀ character ∈ text.toList, Text.isVisible character := by
    rw [spelled]
    intro character inside
    simp only [List.mem_append, List.mem_cons] at inside
    rcases inside with front | rfl | rfl | digit
    · rcases signed with rfl | rfl | rfl <;> simp at front <;> subst front <;> decide
    · decide
    · rcases marked with rfl | rfl <;> decide
    · exact isVisible_of_isHexDigit (known character digit)
  have split : splitSign (sign ++ '0' :: mark :: digits) = (decide (sign = ['-']), '0' :: mark :: digits) := by
    rcases signed with rfl | rfl | rfl <;> rfl
  unfold readInteger
  rw [Text.plainDigits_of_isVisible visible, spelled, split]
  simp [dropBaseMark_hexadecimal known marked, readDigits_hexValue known nonempty]

end Digits

/-- Zeros in front of the digits of a number do not change how they are read. -/
theorem readInteger_padZeros (count number : Nat) :
    readInteger 16 ("0x" ++ String.ofList (padZeros count (hexDigits number))) = .ok number := by
  have spelled : ("0x" ++ String.ofList (padZeros count (hexDigits number))).toList =
      [] ++ '0' :: 'x' :: padZeros count (hexDigits number) := by simp
  have known : ∀ digit ∈ padZeros count (hexDigits number), IsHexDigit digit := fun digit inside =>
    isHexDigit_of_mem_hexAlphabet (mem_hexAlphabet_of_mem_padZeros inside)
  have nonempty : padZeros count (hexDigits number) ≠ [] := by
    have positive := length_hexDigits_pos number
    rw [← List.length_pos_iff, length_padZeros]
    omega
  rw [readInteger_hexadecimal known nonempty (Or.inl rfl) (Or.inr (Or.inr rfl)) spelled, if_neg (by decide),
    hexValue_padZeros, hexValue_hexDigits]

end HalfPrecision.Numeral
