/-! This file defines the bit counts and low-bit masks of unbounded words, and their texts in a base. -/

namespace HalfPrecision

/-- The value of the lowest `length` bits of a word. Higher bits are ignored, and a negative word wraps. -/
def lowBits (length : Nat) (word : Int) : Nat :=
  (word % (1 <<< length : Nat)).toNat

theorem lowBits_lt (length : Nat) (word : Int) : lowBits length word < 1 <<< length := by
  have positive : (0 : Int) < (1 <<< length : Nat) := by
    rw [Nat.one_shiftLeft]
    exact_mod_cast Nat.two_pow_pos length
  have upper := Int.emod_lt_of_pos word positive
  have lower := Int.emod_nonneg word (Int.ne_of_gt positive)
  unfold lowBits
  omega

theorem lowBits_add_mul (length : Nat) (word count : Int) :
    lowBits length (word + (1 <<< length : Nat) * count) = lowBits length word := by
  unfold lowBits
  rw [Int.add_mul_emod_self_left]

/-- The number of bits of a number's shortest binary form. Zero has none. -/
def bitLength (number : Nat) : Nat :=
  if number = 0 then 0 else number.log2 + 1

/-- The shortest text of a number in lowercase hexadecimal digits. -/
def hexDigits (number : Nat) : List Char :=
  Nat.toDigits 16 number

/-- The shortest text of an integer with the base mark `0x`, after a minus sign if it is negative. -/
def hexLiteral (number : Int) : String :=
  (if number < 0 then "-0x" else "0x") ++ String.ofList (hexDigits number.natAbs)

/-- A text filled up with zeros on the left to at least `count` characters. -/
def padZeros (count : Nat) (digits : List Char) : List Char :=
  List.replicate (count - digits.length) '0' ++ digits

theorem length_padZeros (count : Nat) (digits : List Char) :
    (padZeros count digits).length = max count digits.length := by
  simp [padZeros]
  omega

/-- The low `length` bits of a word in hexadecimal, with one digit for each four whole bits of `length` at least. -/
def hexField (length : Nat) (word : Int) : String :=
  String.ofList (padZeros (length / 4) (hexDigits (lowBits length word)))

end HalfPrecision
