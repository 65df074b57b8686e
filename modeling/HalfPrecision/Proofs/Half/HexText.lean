import HalfPrecision.Proofs.Format.Fields
import HalfPrecision.Proofs.Operation.Words
import HalfPrecision.Proofs.Text.Digits
import Mathlib

/-!
This file shows which words have equal hexadecimal texts. A text tells the sign, the exponent field and the number that
is written for the fraction. This is the fraction, or its quotient by 256 if the fraction ends in two zero digits.
-/

namespace HalfPrecision.Half

/-- The zeros behind other digits are dropped unless there is at most one. -/
theorem dropZeroRun_append (front : List Char) {last : Char} (nonzero : last ≠ '0') (count : Nat) :
    dropZeroRun (front ++ [last] ++ List.replicate count '0') =
      if 2 ≤ count then front ++ [last] else front ++ [last] ++ List.replicate count '0' := by
  have kept : ((front ++ [last] ++ List.replicate count '0').reverse.dropWhile (· == '0')).reverse =
      front ++ [last] := by
    rw [List.reverse_append, List.reverse_replicate, List.dropWhile_append_of_pos (by simp), List.reverse_append]
    simp [nonzero]
  simp only [dropZeroRun, kept, List.length_append, List.length_replicate, Nat.add_le_add_iff_left]

/-- The number that is written for a fraction of half precision. -/
def writtenFraction (fraction : Nat) : Nat := if fraction ≠ 0 ∧ fraction % 256 = 0 then fraction / 256 else fraction

/-- The digits written for a fraction of at most three digits are those of one number. -/
theorem dropZeroRun_hexDigits {fraction : Nat} (short : fraction < 16 ^ 3) :
    dropZeroRun (hexDigits fraction) = hexDigits (writtenFraction fraction) := by
  by_cases zero : fraction = 0
  · rw [zero]
    decide
  obtain ⟨count, core, odd, rfl⟩ := Nat.exists_eq_pow_mul_and_not_dvd zero 16 (by decide)
  have positive : 0 < core := Nat.pos_of_ne_zero fun none => odd (none ▸ dvd_zero 16)
  obtain ⟨front, digits⟩ := exists_hexDigits_eq_concat core
  have nonzero : Nat.digitChar (core % 16) ≠ '0' := by
    rw [Ne, Nat.digitChar_eq_zero]
    omega
  have few : count < 3 := by
    by_contra many
    have large : 16 ^ 3 ≤ 16 ^ count := Nat.pow_le_pow_right (by decide) (not_lt.mp many)
    have product := Nat.le_mul_of_pos_right (16 ^ count) positive
    omega
  rw [hexDigits_pow_mul positive, digits, dropZeroRun_append front nonzero, ← digits, ← hexDigits_pow_mul positive,
    writtenFraction]
  interval_cases count
  · rw [if_neg (by decide), if_neg (by omega)]
  · rw [if_neg (by decide), if_neg (by omega)]
  · rw [if_pos (by decide), if_pos (by omega)]
    congr 1
    omega

/-- A fraction is written as it is, or is 256 times the written number. -/
theorem writtenFraction_cases {fraction : Nat} (short : fraction < 1024) :
    writtenFraction fraction = fraction ∨
      fraction = 256 * writtenFraction fraction ∧ 1 ≤ writtenFraction fraction ∧ writtenFraction fraction ≤ 3 := by
  unfold writtenFraction
  split_ifs with zeros
  · exact Or.inr (by omega)
  · exact Or.inl rfl

theorem writtenFraction_eq_zero_iff (fraction : Nat) : writtenFraction fraction = 0 ↔ fraction = 0 := by
  unfold writtenFraction
  split_ifs <;> omega

/-- A written number does not end in two zero digits itself. -/
theorem writtenFraction_mod {fraction : Nat} (short : fraction < 1024) (nonzero : writtenFraction fraction ≠ 0) :
    writtenFraction fraction % 256 ≠ 0 := by
  unfold writtenFraction at nonzero ⊢
  split_ifs at nonzero ⊢ <;> omega

theorem writtenFraction_of_lt {fraction : Nat} (small : fraction < 256) : writtenFraction fraction = fraction :=
  if_neg (by omega)

theorem writtenFraction_mul {core : Nat} (positive : 1 ≤ core) : writtenFraction (256 * core) = core := by
  rw [writtenFraction, if_pos (by omega), Nat.mul_div_cancel_left core (by decide)]

/-- Two fractions are written alike if they are equal or one is 256 times the other, which is below four. -/
theorem writtenFraction_eq_iff {first second : Nat} (left : first < 1024) (right : second < 1024) :
    writtenFraction first = writtenFraction second ↔
      first = second ∨ ∃ core, 1 ≤ core ∧ core ≤ 3 ∧
        (first = core ∧ second = 256 * core ∨ first = 256 * core ∧ second = core) := by
  constructor
  · intro same
    rcases writtenFraction_cases left with kept | ⟨product, inside⟩ <;>
      rcases writtenFraction_cases right with otherKept | ⟨otherProduct, otherInside⟩
    · exact Or.inl (kept.symm.trans (same.trans otherKept))
    · exact Or.inr ⟨_, otherInside.1, otherInside.2, Or.inl ⟨kept.symm.trans same, otherProduct⟩⟩
    · exact Or.inr ⟨_, inside.1, inside.2, Or.inr ⟨product, otherKept.symm.trans same.symm⟩⟩
    · exact Or.inl (by rw [product, otherProduct, same])
  · rintro (rfl | ⟨core, positive, small, ⟨rfl, rfl⟩ | ⟨rfl, rfl⟩⟩)
    · rfl
    · rw [writtenFraction_mul positive, writtenFraction_of_lt (by omega)]
    · rw [writtenFraction_mul positive, writtenFraction_of_lt (by omega)]

/-- What the text of a word spells. A finite word has a leading digit, the number written behind it, and an exponent. -/
inductive Spelling where
  | nan
  | infinite (negative : Bool)
  | finite (negative leading : Bool) (fraction : Nat) (exponent : Int)

namespace Spelling

/-- The text without its sign. -/
def magnitude : Spelling → List Char
  | nan => ['N', 'a', 'N']
  | infinite _ => ['I', 'n', 'f', 'i', 'n', 'i', 't', 'y']
  | finite _ leading fraction exponent =>
    '0' :: 'x' :: (if leading then '1' else '0') :: '.' :: (hexDigits fraction ++ 'p' :: (toString exponent).toList)

def negative : Spelling → Bool
  | nan => false
  | infinite negative => negative
  | finite negative _ _ _ => negative

def characters (spelling : Spelling) : List Char :=
  if spelling.negative then '-' :: spelling.magnitude else spelling.magnitude

/-- The text of a finite word in the order of its characters. -/
theorem characters_finite (negative leading : Bool) (fraction : Nat) (exponent : Int) :
    (finite negative leading fraction exponent).characters = (if negative then ['-'] else []) ++
      '0' :: 'x' :: (if leading then '1' else '0') :: '.' ::
        (hexDigits fraction ++ 'p' :: (toString exponent).toList) := by
  cases negative <;> rfl

theorem magnitude_ne_minus (spelling : Spelling) (text : List Char) : spelling.magnitude ≠ '-' :: text := by
  cases spelling <;> simp [magnitude]

/-- A sign is read off the first character. -/
theorem signed_inj {first second : Spelling} (same : first.characters = second.characters) :
    first.negative = second.negative ∧ first.magnitude = second.magnitude := by
  unfold characters at same
  cases left : first.negative <;> cases right : second.negative <;> rw [left, right] at same
  · exact ⟨rfl, same⟩
  · exact absurd same (first.magnitude_ne_minus _)
  · exact absurd same.symm (second.magnitude_ne_minus _)
  · exact ⟨rfl, (List.cons.inj same).2⟩

/-- The letter in front of the exponent is no digit, so the parts of a text can be told apart. -/
theorem finite_inj {negative other leading next : Bool} {fraction otherFraction : Nat} {exponent otherExponent : Int}
    (same : (finite negative leading fraction exponent).magnitude =
      (finite other next otherFraction otherExponent).magnitude) :
    leading = next ∧ fraction = otherFraction ∧ exponent = otherExponent := by
  have letter : 'p' ∉ hexAlphabet := by decide
  simp only [magnitude, List.cons.injEq, true_and] at same
  obtain ⟨digit, rest⟩ := same
  obtain ⟨digits, -, exponents⟩ := (List.append_cons_inj_of_notMem (notMem_hexDigits letter fraction)
    (notMem_repr rfl (by decide) exponent)).mp rest
  refine ⟨?_, hexDigits_injective digits, Int.repr_injective (String.toList_injective exponents)⟩
  cases leading <;> cases next <;> first | rfl | exact absurd digit (by decide)

/-- The text tells all that it spells. -/
theorem characters_injective : Function.Injective characters := by
  intro first second same
  obtain ⟨signs, texts⟩ := signed_inj same
  cases first with
  | nan =>
      cases second with
      | nan => rfl
      | infinite _ => simp [magnitude] at texts
      | finite _ _ _ _ => simp [magnitude] at texts
  | infinite negative =>
      cases second with
      | nan => simp [magnitude] at texts
      | infinite _ => exact congrArg infinite signs
      | finite _ _ _ _ => simp [magnitude] at texts
  | finite negative leading fraction exponent =>
      cases second with
      | nan => simp [magnitude] at texts
      | infinite _ => simp [magnitude] at texts
      | finite other next otherFraction otherExponent =>
          obtain ⟨rfl, rfl, rfl⟩ := finite_inj texts
          exact congrArg (finite · leading fraction exponent) signs

end Spelling

/-- What the text of a decoded word spells. Only normal words have a leading one, and zeros have the exponent zero. -/
def spelling (decoded : Decoded) : Spelling :=
  match decoded.category with
  | .nan => .nan
  | .infinite => .infinite decoded.negative
  | .zero => .finite decoded.negative false 0 0
  | .subnormal => .finite decoded.negative false (writtenFraction decoded.fraction) (1 - Format.half.bias)
  | .normal =>
    .finite decoded.negative true (writtenFraction decoded.fraction) (decoded.exponentField - Format.half.bias)

theorem hexMagnitude_eq {decoded : Decoded} (short : decoded.fraction < 1024) :
    hexMagnitude decoded = (spelling decoded).magnitude := by
  have digits := dropZeroRun_hexDigits (short.trans (by decide))
  unfold hexMagnitude spelling
  cases decoded.category with
  | nan => rfl
  | infinite => rfl
  | zero =>
      change "0x0.0p0".toList = (Spelling.finite false false 0 0).magnitude
      decide
  | subnormal =>
      rw [digits]
      rfl
  | normal =>
      rw [digits]
      rfl

theorem spelling_eq_nan_iff (decoded : Decoded) : spelling decoded = .nan ↔ decoded.category = .nan := by
  unfold spelling
  cases decoded.category <;> simp

theorem spelling_eq_infinite_iff (decoded : Decoded) (negative : Bool) :
    spelling decoded = .infinite negative ↔ decoded.category = .infinite ∧ decoded.negative = negative := by
  unfold spelling
  cases decoded.category <;> simp

theorem negative_spelling {decoded : Decoded} :
    (spelling decoded).negative ↔ decoded.negative ∧ decoded.category ≠ .nan := by
  unfold spelling
  cases decoded.category <;> simp [Spelling.negative]

theorem hexText_eq (word : Int) : hexText word = String.ofList (spelling (Format.half.decode word)).characters := by
  have short : (Format.half.decode word).fraction < 1024 := Format.half.decode_fraction_lt word
  simp only [hexText, Spelling.characters, hexMagnitude_eq short, negative_spelling]

/-- Words have equal texts if the texts spell the same. -/
theorem hexText_eq_iff (first second : Int) :
    hexText first = hexText second ↔ spelling (Format.half.decode first) = spelling (Format.half.decode second) := by
  rw [hexText_eq, hexText_eq, String.ofList_inj, Spelling.characters_injective.eq_iff]

section Fields

variable {word other : Int} {decoded next : Decoded} (fields : Format.half.Decodes word decoded)
  (nextFields : Format.half.Decodes other next)

include fields

/-- The fields tell what the text of a finite word spells. -/
theorem spelling_of_finite (finite : decoded.category ≠ .nan ∧ decoded.category ≠ .infinite) :
    spelling decoded = .finite decoded.negative (decide (0 < decoded.exponentField)) (writtenFraction decoded.fraction)
      (if decoded.exponentField = 0 then if decoded.fraction = 0 then 0 else -14 else decoded.exponentField - 15) := by
  have bias : (Format.half.bias : Int) = 15 := rfl
  unfold spelling
  cases category : decoded.category with
  | nan => exact absurd category finite.1
  | infinite => exact absurd category finite.2
  | zero =>
      obtain ⟨field, fraction⟩ := fields.zero_iff.mp category
      simp [field, fraction, writtenFraction]
  | subnormal =>
      obtain ⟨field, fraction⟩ := fields.subnormal_iff.mp category
      simp [field, fraction, bias]
  | normal =>
      obtain ⟨positive, -⟩ := fields.normal_iff.mp category
      simp [positive, positive.ne', bias]

include nextFields

/-- Words with equal fields have equal low bits. -/
theorem emod_eq_of_fields (signs : decoded.negative = next.negative)
    (exponents : decoded.exponentField = next.exponentField) (fractions : decoded.fraction = next.fraction) :
    word % 2 ^ 16 = other % 2 ^ 16 := by
  have pattern : decoded.pattern = next.pattern := by
    rw [fields.pattern_eq_lor, nextFields.pattern_eq_lor, signs, exponents, fractions]
  have left : (decoded.pattern : Int) = word % 2 ^ 16 := fields.pattern_eq
  have right : (next.pattern : Int) = other % 2 ^ 16 := nextFields.pattern_eq
  rw [← left, ← right, pattern]

/-- Finite words spell the same if their fields are equal, apart from two zero digits at the end of one fraction. -/
theorem spelling_eq_iff_of_finite (finite : decoded.category ≠ .nan ∧ decoded.category ≠ .infinite)
    (nextFinite : next.category ≠ .nan ∧ next.category ≠ .infinite) :
    spelling decoded = spelling next ↔
      decoded.negative = next.negative ∧ decoded.exponentField = next.exponentField ∧
        writtenFraction decoded.fraction = writtenFraction next.fraction := by
  rw [spelling_of_finite fields finite, spelling_of_finite nextFields nextFinite, Spelling.finite.injEq]
  constructor
  · rintro ⟨signs, leading, written, exponents⟩
    refine ⟨signs, ?_, written⟩
    rw [decide_eq_decide] at leading
    split_ifs at exponents <;> omega
  · rintro ⟨signs, exponents, written⟩
    have zeros : decoded.fraction = 0 ↔ next.fraction = 0 := by
      rw [← writtenFraction_eq_zero_iff, written, writtenFraction_eq_zero_iff]
    simp only [signs, exponents, written, zeros, and_self]

end Fields

section Equal

variable {first second : Int}
  (same : spelling (Format.half.decode first) = spelling (Format.half.decode second))
  (notNaN : (Format.half.decode first).category ≠ .nan)

include same notNaN

/-- Words that spell the same are both finite or both infinite. -/
theorem category_of_spelling_eq :
    (Format.half.decode second).category ≠ .nan ∧
      ((Format.half.decode first).category = .infinite ↔ (Format.half.decode second).category = .infinite) := by
  constructor
  · rwa [Ne, ← spelling_eq_nan_iff, ← same, spelling_eq_nan_iff]
  · constructor
    · intro infinite
      exact ((spelling_eq_infinite_iff _ _).mp (same.symm.trans ((spelling_eq_infinite_iff _ _).mpr ⟨infinite, rfl⟩))).1
    · intro infinite
      exact ((spelling_eq_infinite_iff _ _).mp (same.trans ((spelling_eq_infinite_iff _ _).mpr ⟨infinite, rfl⟩))).1

/-- Words that spell the same and are no NaNs agree in all but their fractions. -/
theorem fields_of_spelling_eq :
    (Format.half.decode first).negative = (Format.half.decode second).negative ∧
      (Format.half.decode first).exponentField = (Format.half.decode second).exponentField ∧
      (Format.half.decode first).category = (Format.half.decode second).category ∧
      writtenFraction (Format.half.decode first).fraction = writtenFraction (Format.half.decode second).fraction := by
  obtain ⟨otherNumber, infinities⟩ := category_of_spelling_eq same notNaN
  have fields := Format.half.decode_decodes first
  have otherFields := Format.half.decode_decodes second
  by_cases infinite : (Format.half.decode first).category = .infinite
  · obtain ⟨otherInfinite, sign⟩ := (spelling_eq_infinite_iff _ _).mp
      (same.symm.trans ((spelling_eq_infinite_iff _ _).mpr ⟨infinite, rfl⟩))
    obtain ⟨exponent, fraction⟩ := fields.infinite_iff.mp infinite
    obtain ⟨otherExponent, otherFraction⟩ := otherFields.infinite_iff.mp otherInfinite
    exact ⟨sign.symm, exponent.trans otherExponent.symm, infinite.trans otherInfinite.symm,
      by rw [fraction, otherFraction]⟩
  · obtain ⟨signs, exponents, written⟩ := (spelling_eq_iff_of_finite fields otherFields ⟨notNaN, infinite⟩
      ⟨otherNumber, fun other => infinite (infinities.mpr other)⟩).mp same
    have zeros : (Format.half.decode first).fraction = 0 ↔ (Format.half.decode second).fraction = 0 := by
      rw [← writtenFraction_eq_zero_iff, written, writtenFraction_eq_zero_iff]
    refine ⟨signs, exponents, ?_, written⟩
    rw [Format.category_eq_fields, Format.category_eq_fields, exponents]
    simp only [zeros]

end Equal

/-- What is written for a finite word that is not zero: a sign, a leading digit, at most three digits that do not end in
two zeros, and the exponent of the word. -/
structure WrittenAs (decoded : Decoded) (text : String) (digits : List Char) (exponent : Int) : Prop where
  text_eq : text.toList = (if decoded.negative then ['-'] else []) ++
    '0' :: 'x' :: (if decoded.category = .normal then '1' else '0') :: '.' ::
      (digits ++ 'p' :: (toString exponent).toList)
  digits_pos : 1 ≤ digits.length
  digits_le : digits.length ≤ 3
  digits_hex : ∀ digit ∈ digits, digit ∈ "0123456789abcdef".toList
  no_zeros : ¬['0', '0'] <:+ digits
  subnormal : decoded.category = .subnormal → exponent = -14
  normal : decoded.category = .normal → exponent = decoded.exponentField - 15 ∧ -14 ≤ exponent ∧ exponent ≤ 15

theorem exists_writtenAs {word : Int}
    (known : (Format.half.decode word).category = .subnormal ∨ (Format.half.decode word).category = .normal) :
    ∃ digits exponent, WrittenAs (Format.half.decode word) (hexText word) digits exponent := by
  have fields := Format.half.decode_decodes word
  have short : (Format.half.decode word).fraction < 1024 := fields.fraction_lt
  have finite : (Format.half.decode word).category ≠ .nan ∧ (Format.half.decode word).category ≠ .infinite := by
    rcases known with category | category <;> simp [category]
  refine ⟨hexDigits (writtenFraction (Format.half.decode word).fraction),
    if (Format.half.decode word).exponentField = 0 then -14 else (Format.half.decode word).exponentField - 15,
    ?_, length_hexDigits_pos _, ?_, fun digit inside => mem_hexAlphabet_of_mem_hexDigits inside, ?_, ?_, ?_⟩
  · rw [hexText_eq, String.toList_ofList, spelling_of_finite fields finite, Spelling.characters_finite]
    rcases known with subnormal | normal
    · obtain ⟨field, fraction⟩ := fields.subnormal_iff.mp subnormal
      simp [field, fraction, subnormal]
    · obtain ⟨positive, -⟩ := fields.normal_iff.mp normal
      simp [positive, positive.ne', normal]
  · rw [length_hexDigits_le_iff _ (by decide)]
    rcases writtenFraction_cases short with kept | ⟨-, -, small⟩ <;> omega
  · intro zeros
    obtain ⟨nonzero, multiple⟩ := of_zeros_suffix_hexDigits zeros
    exact writtenFraction_mod short nonzero multiple
  · intro subnormal
    exact if_pos (fields.subnormal_iff.mp subnormal).1
  · intro normal
    obtain ⟨positive, below⟩ := fields.normal_iff.mp normal
    have top : (Format.half.decode word).exponentField < 31 := below
    rw [if_neg positive.ne']
    omega

/-- Two words have one text if both are NaNs, if their low bits are equal, or if they are finite words that differ only
in two zero digits behind one of the fractions. -/
theorem hexText_identifies (first second : Int) :
    Operation.hexText.evaluate? [.int first] = some (.ok (.text (hexText first))) ∧
    let left := Format.half.decode first
    let right := Format.half.decode second
    (hexText first = hexText second ↔
      left.category = .nan ∧ right.category = .nan ∨ first % 2 ^ 16 = second % 2 ^ 16 ∨
      (left.category ≠ .nan ∧ left.category ≠ .infinite) ∧ (right.category ≠ .nan ∧ right.category ≠ .infinite) ∧
        left.negative = right.negative ∧ left.exponentField = right.exponentField ∧
        ∃ core, 1 ≤ core ∧ core ≤ 3 ∧
          (left.fraction = core ∧ right.fraction = 256 * core ∨ left.fraction = 256 * core ∧ right.fraction = core)) ∧
    (hexText first = hexText second → left.category ≠ .nan →
      left.negative = right.negative ∧ left.exponentField = right.exponentField ∧ left.category = right.category) ∧
    (left.category = .subnormal ∨ left.category = .normal →
      ∃ digits exponent, WrittenAs left (hexText first) digits exponent) := by
  refine ⟨rfl, ?_⟩
  intro left right
  have fields : Format.half.Decodes first left := Format.half.decode_decodes first
  have otherFields : Format.half.Decodes second right := Format.half.decode_decodes second
  have alike := writtenFraction_eq_iff fields.fraction_lt otherFields.fraction_lt
  refine ⟨?_, ?_, exists_writtenAs⟩
  · rw [hexText_eq_iff]
    constructor
    · intro same
      by_cases isNaN : left.category = .nan
      · exact Or.inl ⟨isNaN, (spelling_eq_nan_iff right).mp (same.symm.trans ((spelling_eq_nan_iff left).mpr isNaN))⟩
      · right
        obtain ⟨signs, exponents, categories, written⟩ := fields_of_spelling_eq same isNaN
        rcases alike.mp written with fractions | cores
        · exact Or.inl (emod_eq_of_fields fields otherFields signs exponents fractions)
        · have notInfinite : left.category ≠ .infinite := by
            intro infinite
            have none := (fields.infinite_iff.mp infinite).2
            obtain ⟨core, positive, -, ⟨fraction, -⟩ | ⟨fraction, -⟩⟩ := cores <;> omega
          exact Or.inr ⟨⟨isNaN, notInfinite⟩, ⟨categories ▸ isNaN, categories ▸ notInfinite⟩, signs, exponents, cores⟩
    · rintro (⟨isNaN, otherNaN⟩ | bits | ⟨finite, otherFinite, signs, exponents, cores⟩)
      · rw [(spelling_eq_nan_iff left).mpr isNaN, (spelling_eq_nan_iff right).mpr otherNaN]
      · rw [decode_congr ((pattern_eq_iff first second).mpr bits)]
      · exact (spelling_eq_iff_of_finite fields otherFields finite otherFinite).mpr
          ⟨signs, exponents, alike.mpr (Or.inr cores)⟩
  · intro same notNaN
    obtain ⟨signs, exponents, categories, -⟩ := fields_of_spelling_eq ((hexText_eq_iff first second).mp same) notNaN
    exact ⟨signs, exponents, categories⟩

/-- The successor of one and a normal word with its digit in front of two zeros, and a negative subnormal word. -/
theorem hexText_identifies_zeros :
    hexText 0x3c01 = hexText 0x3d00 ∧ hexText 0x3c01 ≠ hexText 0x3c10 ∧
      (Format.half.decode 0x3c01).exponentField = (Format.half.decode 0x3d00).exponentField ∧
      ∃ digits exponent, WrittenAs (Format.half.decode 0x8200) (hexText 0x8200) digits exponent := by
  obtain ⟨-, equal, told, -⟩ := hexText_identifies 0x3c01 0x3d00
  have same : hexText 0x3c01 = hexText 0x3d00 := equal.mpr
    (Or.inr (Or.inr ⟨by decide, by decide, by decide, by decide, 1, by decide, by decide, Or.inl (by decide)⟩))
  refine ⟨same, ?_, (told same (by decide)).2.1, (hexText_identifies 0x8200 0).2.2.2 (by decide)⟩
  intro apart
  rcases (hexText_identifies 0x3c01 0x3c10).2.1.mp apart with ⟨isNaN, -⟩ | bits | ⟨-, -, -, -, core, -, -, fractions⟩
  · exact absurd isNaN (by decide)
  · exact absurd bits (by decide)
  · have first : (Format.half.decode 0x3c01).fraction = 1 := by decide
    have second : (Format.half.decode 0x3c10).fraction = 16 := by decide
    omega

end HalfPrecision.Half
