import HalfPrecision.Half.Line
import HalfPrecision.Proofs.Binary64.Packed
import HalfPrecision.Proofs.Binary64.Text
import HalfPrecision.Proofs.Half.Classify
import HalfPrecision.Proofs.Half.HexText
import HalfPrecision.Proofs.Half.Widened
import HalfPrecision.Proofs.Numeral.Integer
import HalfPrecision.Proofs.Operation.Words

/-!
This file shows that the line that describes a half takes the half apart faithfully. It consists of visible fields with
spaces between them, and the half is put together again from its digits, from its decimal and from its traced parts.
-/

namespace HalfPrecision

open Text

section Visible

theorem all_isVisible_of_isDigit {digits : List Char} (known : ∀ digit ∈ digits, digit.isDigit) :
    digits.all isVisible :=
  List.all_eq_true.mpr fun digit inside =>
    Numeral.isVisible_of_mem_realAlphabet (Numeral.forall_mem_realAlphabet_of_isDigit known digit inside)

theorem all_isVisible_of_mem_hexAlphabet {digits : List Char} (known : ∀ digit ∈ digits, digit ∈ hexAlphabet) :
    digits.all isVisible :=
  List.all_eq_true.mpr fun digit inside =>
    Numeral.isVisible_of_isHexDigit (Numeral.isHexDigit_of_mem_hexAlphabet (known digit inside))

@[simp]
theorem all_isVisible_hexDigits (number : Nat) : (hexDigits number).all isVisible :=
  all_isVisible_of_mem_hexAlphabet fun _ => mem_hexAlphabet_of_mem_hexDigits

@[simp]
theorem all_isVisible_padZeros (count number : Nat) : (padZeros count (hexDigits number)).all isVisible :=
  all_isVisible_of_mem_hexAlphabet fun _ => mem_hexAlphabet_of_mem_padZeros

/-- An integer is written by visible characters. -/
@[simp]
theorem all_isVisible_repr (number : Int) : number.repr.toList.all isVisible := by
  have digits (natural : Nat) : (Nat.toDigits 10 natural).all isVisible :=
    all_isVisible_of_isDigit fun digit inside => Nat.isDigit_of_mem_toDigits (by decide) (by decide) inside
  have minus : isVisible '-' := by decide
  rw [Int.repr_eq_if]
  split_ifs <;> simp [digits, minus]

theorem Category.isField_name (category : Category) : IsField category.name.toList := by
  cases category <;> exact ⟨by decide, by decide⟩

theorem Binary64.isField_text (number : Binary64) : IsField number.text.toList := by
  obtain ⟨numeral, written, -⟩ := exists_writesReal_characters number
  rw [text, String.toList_ofList]
  exact ⟨Numeral.ne_nil_of_writesReal written, List.all_eq_true.mpr fun character inside =>
    Numeral.isVisible_of_mem_realAlphabet (Numeral.mem_realAlphabet_of_writesReal written character inside)⟩

end Visible

namespace Half

theorem Spelling.isField_magnitude (spelling : Spelling) : IsField spelling.magnitude := by
  cases spelling with
  | nan => exact ⟨by decide, by decide⟩
  | infinite negative => exact ⟨List.cons_ne_nil _ _, by rfl⟩
  | finite negative leading fraction exponent =>
      have marks : ['0', '1', 'x', '.', 'p'].all isVisible := by decide
      simp only [List.all_cons, List.all_nil, Bool.and_true, Bool.and_eq_true] at marks
      exact ⟨List.cons_ne_nil _ _, by cases leading <;> simp [magnitude, marks]⟩

theorem isField_hexText (word : Int) : IsField (hexText word).toList := by
  obtain ⟨nonempty, visible⟩ := (spelling (Format.half.decode word)).isField_magnitude
  have minus : isVisible '-' := by decide
  rw [hexText_eq, String.toList_ofList, Spelling.characters]
  split_ifs
  · exact ⟨List.cons_ne_nil _ _, by simp [minus, visible]⟩
  · exact ⟨nonempty, visible⟩

/-- The line of a half consists of four fields. -/
theorem visibleParts_line (word : Int) (rest : List Char) :
    visibleParts ((line word).toList ++ rest) = (hexField size word ++ ":").toList :: (category word).name.toList ::
      (toBinary64 word).text.toList :: visibleParts ((hexText word).toList ++ rest) := by
  have bits : IsField (hexField size word ++ ":").toList := by
    have colon : isVisible ':' := by decide
    rw [String.toList_append, toList_hexField]
    exact ⟨by simp, by simp [colon]⟩
  have name := (category word).isField_name
  have number := (toBinary64 word).isField_text
  have shape : (line word).toList ++ rest = (hexField size word ++ ":").toList ++ (List.replicate (0 + 1) ' ' ++
      ((category word).name.toList ++
        (List.replicate (9 - (category word).name.length + (16 - (toBinary64 word).text.length) + 1) ' ' ++
          ((toBinary64 word).text.toList ++ (List.replicate (1 + 1) ' ' ++ ((hexText word).toList ++ rest)))))) := by
    rw [Nat.add_right_comm (9 - (category word).name.length)]
    simp only [line, padRight, padLeft, String.toList_append, String.toList_ofList, List.replicate_add,
      List.append_assoc]
    simp
  rw [shape, visibleParts_cons bits, visibleParts_cons name, visibleParts_cons number]

/-- The text of a traced sign. -/
def signText (word : Int) : String := if sign word < 0 then "-" else "+"

/-- The text of a traced fraction. -/
def fractionText (word : Int) : String := "0x" ++ String.ofList (padZeros 3 (hexDigits (fraction word)))

/-- The traced parts of a half are three more fields. -/
theorem visibleParts_trace {part : List Char} (field : IsField part) (word : Int) :
    visibleParts (part ++ (trace word).toList) = [part, ("sign=" ++ signText word).toList,
      ("exp=" ++ toString (exponent word)).toList, ("sig=" ++ fractionText word).toList] := by
  have marks : ['s', 'i', 'g', 'n', 'e', 'x', 'p', '=', '+', '-', '0'].all isVisible := by decide
  simp only [List.all_cons, List.all_nil, Bool.and_true, Bool.and_eq_true] at marks
  have sign : IsField ("sign=" ++ signText word).toList := by
    rw [signText]
    split_ifs <;> exact ⟨by simp, by simp [marks]⟩
  have exponent : IsField ("exp=" ++ toString (exponent word)).toList := ⟨by simp, by simp [marks]⟩
  have fraction : IsField ("sig=" ++ fractionText word).toList := ⟨by simp, by simp [fractionText, marks]⟩
  have shape : (trace word).toList = List.replicate (1 + 1) ' ' ++ (("sign=" ++ signText word).toList ++
      (List.replicate (0 + 1) ' ' ++ (("exp=" ++ toString (Half.exponent word)).toList ++
        (List.replicate (0 + 1) ' ' ++ ("sig=" ++ fractionText word).toList)))) := by
    simp [trace, signText, fractionText]
  rw [shape, visibleParts_cons field, visibleParts_cons sign, visibleParts_cons exponent,
    visibleParts_of_isField fraction]

theorem fields_describe (traced : Bool) (word : Int) :
    fields (describe traced word) =
      [hexField size word ++ ":", (category word).name, (toBinary64 word).text, hexText word] ++
        if traced then
          ["sign=" ++ signText word, "exp=" ++ toString (exponent word), "sig=" ++ fractionText word]
        else [] := by
  have hex := isField_hexText word
  cases traced with
  | true =>
      have both := visibleParts_line word (trace word).toList
      rw [← String.toList_append, visibleParts_trace hex] at both
      simp [fields, describe, both, -String.toList_append]
  | false =>
      have alone := visibleParts_line word []
      rw [List.append_nil, List.append_nil, visibleParts_of_isField hex] at alone
      simp [fields, describe, alone, -String.toList_append]

/-- No real numeral is taken for hexadecimal bits. -/
theorem marksBits_of_mem_realAlphabet {characters : List Char}
    (known : ∀ character ∈ characters, character ∈ Numeral.realAlphabet) : marksBits characters = false := by
  unfold marksBits
  split
  · rename_i letter rest unsigned
    have behind := List.dropWhile_suffix (l := characters) fun character => character == '+' || character == '-'
    rw [unsigned] at behind
    have inside : letter ∈ characters := behind.subset (by simp)
    obtain ⟨-, small, large⟩ := Numeral.ne_of_mem_realAlphabet (known letter inside)
    simp [small, large]
  · rfl

/-- The text of a binary64 number is read as the half nearest to the number. -/
theorem ofText_text (number : Binary64) : ofText number.text = .ok (ofBinary64 number : Int) := by
  obtain ⟨numeral, written, -⟩ := Binary64.exists_writesReal_characters number
  have real := marksBits_of_mem_realAlphabet (Numeral.mem_realAlphabet_of_writesReal written)
  have half : ofBinary64 (if number.isNaN then Binary64.nan else number) = ofBinary64 number := by
    split_ifs with isNaN
    · rw [Binary64.ofBinary64_isNaN ((Binary64.isNaN_iff number).mp isNaN), Binary64.ofBinary64_isNaN (by decide)]
    · rfl
  rw [ofText, Binary64.text, String.toList_ofList, real, if_neg (by decide), ← Binary64.text, Binary64.ofText_text,
    ← half]
  rfl

/-- A half is kept by its binary64 number, unless it is a NaN. -/
theorem ofBinary64_toBinary64_eq (word : Int) :
    (ofBinary64 (toBinary64 word) : Int) = if 0x7c00 < word % 2 ^ 15 then 0x7e00 else word % 2 ^ 16 := by
  have bits : (lowBits Format.half.width word : Int) = word % 2 ^ 16 := natCast_lowBits 16 word
  have magnitude : (Format.half.magnitudeBits word : Int) = word % 2 ^ 15 := by
    rw [Format.magnitudeBits, Int.natCast_mod, bits]
    exact Int.emod_emod_of_dvd word (by decide)
  have mask : (Format.half.exponentMask : Int) = 0x7c00 := by decide
  rw [toBinary64, Binary64.ofBinary64_ofSingle, ← magnitude, ← mask]
  simp only [Nat.cast_lt]
  split_ifs with special
  · rw [toSingle_eq, if_pos special, ofSingle_eq, if_pos (by decide)]
    rfl
  · obtain ⟨-, -, -, -, -, back⟩ := exists_toSingle (not_lt.mp special)
    rw [back, bits]

/-- An exponent is read from its text. -/
theorem readInteger_exponent (word : Int) :
    Numeral.readInteger 10 (toString (exponent word)) = .ok (exponent word) := by
  obtain ⟨lower, upper⟩ := exponent_bounds word
  generalize exponent word = number at lower upper
  interval_cases number <;> rfl

/-- The traced parts put the half together. -/
theorem pattern_eq_traced (word : Int) :
    word % 2 ^ 16 =
      ((if signText word = "-" then 0x8000 else 0) ||| (exponent word + 15).toNat * 1024 ||| fraction word : Nat) := by
  have parts := Format.half.decode_pattern_eq_lor word
  rw [show Format.half.signBit = 0x8000 by decide, show 2 ^ Format.half.fractionWidth = 1024 by decide] at parts
  have bits : ((Format.half.decode word).pattern : Int) = word % 2 ^ 16 := natCast_lowBits 16 word
  have field : (exponent word + 15).toNat = (Format.half.decode word).exponentField := by
    rw [exponent_eq_decode]
    omega
  rw [← bits, parts, field, fraction_eq_decode, signText, sign_eq_decode]
  cases (Format.half.decode word).negative <;> simp

/-- The line of a half takes the half apart into fields that tell its bits, its category, its value and its traced
parts. -/
theorem describe_decomposes (word : Int) :
    Operation.describe.evaluate? [.int word] = some (.ok (.text (describe false word))) ∧
    (∀ traced : Value, Operation.describe.evaluate? [.int word, traced] =
      some (.ok (.text (describe traced.isTrue word)))) ∧
    ∃ (digits number signText exponentText fractionText : String) (exponent : Int) (fraction : Nat),
      fields (describe false word) =
        [digits ++ ":", (category (word % 2 ^ 16)).name, number, hexText (word % 2 ^ 16)] ∧
      fields (describe true word) = fields (describe false word) ++
        ["sign=" ++ signText, "exp=" ++ exponentText, "sig=" ++ fractionText] ∧
      digits.length = 4 ∧ digits.toList ⊆ "0123456789abcdef".toList ∧
      (hexValue digits.toList : Int) = word % 2 ^ 16 ∧
      ofText number = .ok (if 0x7c00 < word % 2 ^ 15 then 0x7e00 else word % 2 ^ 16) ∧
      (signText = "-" ∨ signText = "+") ∧ Numeral.readInteger 10 exponentText = .ok exponent ∧
      Numeral.readInteger 16 fractionText = .ok fraction ∧ 0 ≤ exponent + 15 ∧
      word % 2 ^ 16 =
        ((if signText = "-" then 0x8000 else 0) ||| (exponent + 15).toNat * 1024 ||| fraction : Nat) := by
  refine ⟨rfl, fun traced => rfl, hexField size word, (toBinary64 word).text, signText word, toString (exponent word),
    fractionText word, exponent word, fraction word, ?_, ?_, ?_, ?_, ?_, ?_, ?_, readInteger_exponent word,
    Numeral.readInteger_padZeros 3 (fraction word), ?_, pattern_eq_traced word⟩
  · have same : pattern (word % 2 ^ 16) = pattern word := by
      rw [pattern_eq_iff, Int.emod_emod_of_dvd word dvd_rfl]
    rw [fields_describe, category_congr same, hexText_congr same]
    rfl
  · rw [fields_describe, fields_describe]
    rfl
  · exact length_hexField_of_dvd size word (by decide) (by decide)
  · exact fun digit => mem_hexAlphabet_of_mem_hexField size word
  · rw [hexValue_hexField]
    exact natCast_lowBits 16 word
  · rw [ofText_text, ofBinary64_toBinary64_eq]
  · rw [signText]
    split_ifs <;> simp
  · have bounds := exponent_bounds word
    omega

end Half

end HalfPrecision
