import HalfPrecision.Word

/-! This file defines the layout of binary interchange formats: a sign bit, an exponent field and a fraction field. -/

namespace HalfPrecision

/-- A binary interchange format of `width` bits, of which the lowest `fractionWidth` hold the fraction. -/
structure Format where
  width : Nat
  fractionWidth : Nat
  fractionWidth_pos : 0 < fractionWidth := by decide
  width_ge : fractionWidth + 2 ≤ width := by decide
deriving DecidableEq

namespace Format

/-- The format with the two given widths. There is none without a fraction bit or without an exponent bit. -/
def ofWidths? (width fractionWidth : Int) : Option Format :=
  if inside : 1 ≤ fractionWidth ∧ fractionWidth + 2 ≤ width then
    some ⟨width.toNat, fractionWidth.toNat, by omega, by omega⟩
  else none

theorem ofWidths?_eq_none_iff (width fractionWidth : Int) :
    ofWidths? width fractionWidth = none ↔ fractionWidth < 1 ∨ width < fractionWidth + 2 := by
  unfold ofWidths?
  split <;> simp <;> omega

/-- The format of 16 bits. -/
def half : Format := ⟨16, 10, by decide, by decide⟩

/-- The format of 32 bits. -/
def single : Format := ⟨32, 23, by decide, by decide⟩

/-- The format of 64 bits. -/
def double : Format := ⟨64, 52, by decide, by decide⟩

/-- The bits between the sign and the fraction. -/
def exponentWidth (format : Format) : Nat := format.width - format.fractionWidth - 1

def signBit (format : Format) : Nat := 1 <<< (format.width - 1)

/-- The highest fraction bit, which is set in a quiet NaN. -/
def quietBit (format : Format) : Nat := 1 <<< (format.fractionWidth - 1)

/-- All bits but the sign. -/
def magnitudeMask (format : Format) : Nat := format.signBit - 1

/-- The weight of the implicit leading bit of a normal significand. -/
def significandOne (format : Format) : Nat := 1 <<< format.fractionWidth

def fractionMask (format : Format) : Nat := format.significandOne - 1

/-- All bits of the exponent field, which is also the pattern of infinity. -/
def exponentMask (format : Format) : Nat := format.magnitudeMask ^^^ format.fractionMask

/-- What the exponent field of one is. -/
def bias (format : Format) : Nat := 1 <<< (format.exponentWidth - 1) - 1

/-- The NaN that every operation returns. -/
def quietNaN (format : Format) : Nat := format.exponentMask ||| format.quietBit

/-- The pattern of the largest finite value. -/
def largestFinite (format : Format) : Nat := format.magnitudeMask ^^^ format.significandOne

/-- A magnitude with the sign bit of a negative value put in front. -/
def signed (format : Format) (negative : Bool) (magnitude : Nat) : Nat :=
  if negative then format.signBit + magnitude else magnitude

end Format

end HalfPrecision
