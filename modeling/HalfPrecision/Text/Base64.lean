import HalfPrecision.Word

/-! This file defines how bytes are read from text in base 64. Characters outside of the alphabet are skipped. -/

namespace HalfPrecision.Text

/-- The value of a digit in base 64. -/
def sextet? (character : Char) : Option Nat :=
  let code := character.toNat
  if character.isUpper then some (code - 'A'.toNat)
  else if character.isLower then some (code - 'a'.toNat + 26)
  else if character.isDigit then some (code - '0'.toNat + 52)
  else if character = '+' then some 62
  else if character = '/' then some 63
  else none

/-- The state of reading: the digits of the current group of four, the padding marks after them, and the value of the
bits that fill no byte yet. -/
structure Base64 where
  digits : Nat
  padding : Nat
  bits : Nat

/-- Reads the bytes of a text in base 64. Groups must be complete, and nothing is read after the padding. -/
def decodeBase64? (state : Base64) : List Char → Option (List UInt8)
  | [] => if state.digits = 0 then some [] else none
  | character :: rest =>
    if character = '=' then
      if 2 ≤ state.digits ∧ 4 ≤ state.digits + state.padding + 1 then some []
      else decodeBase64? { state with padding := if 2 ≤ state.digits then state.padding + 1 else state.padding } rest
    else match sextet? character with
      | none => decodeBase64? state rest
      | some sextet =>
        let bits := state.bits * 64 + sextet
        if state.digits = 0 then decodeBase64? ⟨1, 0, bits⟩ rest
        else
          let kept := 6 - 2 * state.digits
          let next : Base64 := ⟨(state.digits + 1) % 4, 0, bits % (1 <<< kept)⟩
          (decodeBase64? next rest).map (UInt8.ofNat (bits >>> kept) :: ·)

end HalfPrecision.Text
