import HalfPrecision.Text.Quoted

/-!
This file defines texts that are given by their code points. Surrogates may be among these, which stand for what is no
character, so not all code points make a string.
-/

namespace HalfPrecision.Text

/-- The code points of a string. -/
def codes (text : String) : List Nat := text.toList.map Char.toNat

/-- The string of code points without surrogates. -/
def ofCodes (codes : List Nat) : String := String.ofList (codes.map Char.ofNat)

/-- Code points as they are printed, where surrogates are escaped. -/
def printed (codes : List Nat) : String :=
  String.ofList (codes.flatMap fun code =>
    if isSurrogate code then '\\' :: 'u' :: hexDigitsOf 4 code else [Char.ofNat code])

theorem ofCodes_codes (text : String) : ofCodes (codes text) = text := by
  simp [ofCodes, codes, Function.comp_def]

theorem isSurrogate_toNat (character : Char) : isSurrogate character.toNat = false := by
  have valid : character.toNat < 0xd800 ∨ 0xdfff < character.toNat ∧ character.toNat < 0x110000 := character.valid
  simp only [isSurrogate, Bool.and_eq_false_iff, decide_eq_false_iff_not]
  omega

/-- No code point of a string is a surrogate. -/
theorem any_isSurrogate_codes (text : String) : (codes text).any isSurrogate = false := by
  simp [codes, isSurrogate_toNat]

theorem quotedCodes_codes (text : String) : quotedCodes (codes text) = quoted text.toList := by
  simp [quotedCodes, quoted, codes, escapeCode, isSurrogate_toNat, Function.comp_def, List.flatMap_map]

end HalfPrecision.Text
