import HalfPrecision.Binary64.Text
import HalfPrecision.Proofs.Binary64.Decimal
import HalfPrecision.Proofs.Format.Fields
import HalfPrecision.Proofs.Numeral.Real

/-!
This file shows that each binary64 number is read back from its text. Its digits and the place of their point denote a
decimal that is rounded to the number, whichever layout is chosen.
-/

namespace HalfPrecision.Binary64

open Numeral

/-- What is dropped from the end of digits are zeros. -/
theorem exists_zeros (digits : List Char) :
    ∃ count, digits = (digits.reverse.dropWhile (· == '0')).reverse ++ List.replicate count '0' := by
  have zeros : digits.reverse.takeWhile (· == '0') =
      List.replicate (digits.reverse.takeWhile (· == '0')).length '0' := by
    rw [List.eq_replicate_iff]
    exact ⟨rfl, fun digit inside => by simpa using List.mem_takeWhile_imp inside⟩
  refine ⟨(digits.reverse.takeWhile (· == '0')).length, ?_⟩
  rw [← List.reverse_replicate, ← zeros, ← List.reverse_append, List.takeWhile_append_dropWhile, List.reverse_reverse]

/-- The significant digits of a decimal denote it together with the place of their point. -/
theorem exists_significantDigits {mantissa : Nat} (positive : 0 < mantissa) (exponent : Int) {digits : List Char}
    {point : Int} (split : significantDigits mantissa exponent = (digits, point)) :
    digits ≠ [] ∧ (∀ digit ∈ digits, digit.isDigit) ∧
      ∃ zeros : Nat, mantissa = digitsValue digits * 10 ^ zeros ∧ point = digits.length + zeros + exponent := by
  obtain ⟨zeros, all⟩ := exists_zeros (Nat.toDigits 10 mantissa)
  obtain ⟨kept, place⟩ := Prod.mk.inj split
  rw [kept] at all
  have value : mantissa = digitsValue digits * 10 ^ zeros := by
    rw [← digitsValue_append_zeros, ← all, digitsValue_toDigits]
  refine ⟨?_, ?_, zeros, value, ?_⟩
  · rintro rfl
    rw [value] at positive
    exact absurd positive (by simp [digitsValue])
  · intro digit inside
    have known : digit ∈ Nat.toDigits 10 mantissa := all ▸ List.mem_append_left _ inside
    exact Nat.isDigit_of_mem_toDigits (by decide) (by decide) known
  · rw [← place, all, List.length_append, List.length_replicate]
    push_cast
    rfl

/-- The digits of a number stay digits when zeros are put in front of them. -/
theorem isDigit_padZeros (count number : Nat) : ∀ digit ∈ padZeros count (Nat.toDigits 10 number), digit.isDigit := by
  intro digit inside
  rw [padZeros, List.mem_append, List.mem_replicate] at inside
  rcases inside with ⟨-, rfl⟩ | inside
  · rfl
  · exact Nat.isDigit_of_mem_toDigits (by decide) (by decide) inside

theorem writesExponent_exponentText (exponent : Int) : WritesExponent exponent (exponentText exponent) := by
  have digits := isDigit_padZeros 2 exponent.natAbs
  have nonempty : padZeros 2 (Nat.toDigits 10 exponent.natAbs) ≠ [] := by
    rw [← List.length_pos_iff, length_padZeros]
    omega
  have value : digitsValue (padZeros 2 (Nat.toDigits 10 exponent.natAbs)) = exponent.natAbs := by
    rw [padZeros, digitsValue_zeros_append, digitsValue_toDigits]
  rw [exponentText]
  split_ifs with negative
  · have written := WritesExponent.negative nonempty digits
    rwa [value, show -(exponent.natAbs : Int) = exponent by omega] at written
  · have written := WritesExponent.positive nonempty digits
    rwa [value, show (exponent.natAbs : Int) = exponent by omega] at written

section Layout

variable {digits : List Char} (nonempty : digits ≠ []) (known : ∀ digit ∈ digits, digit.isDigit)

include known in
/-- All digits stand behind the point, with zeros between. -/
theorem writesDecimal_pointed_before (count : Nat) :
    WritesDecimal (digitsValue digits) (-count - digits.length) ('0' :: '.' :: List.replicate count '0' ++ digits) := by
  have zero : ['0'] ≠ [] := by simp
  have zeros (count : Nat) : ∀ digit ∈ List.replicate count '0', digit.isDigit := by simp
  convert WritesDecimal.pointed zero (zeros 1) (List.forall_mem_append.mpr ⟨zeros count, known⟩) .none using 1
  · rw [← List.replicate_one, digitsValue_zeros_append, digitsValue_zeros_append]
  · simp
    omega
  · simp

include nonempty known

/-- All digits stand in front of the point, with zeros between, and one zero stands behind it. -/
theorem writesDecimal_pointed_after (count : Nat) :
    WritesDecimal (digitsValue digits * 10 ^ (count + 1)) (-1) (digits ++ List.replicate count '0' ++ ['.', '0']) := by
  have zeros (count : Nat) : ∀ digit ∈ List.replicate count '0', digit.isDigit := by simp
  convert WritesDecimal.pointed (List.append_ne_nil_of_left_ne_nil nonempty _)
    (List.forall_mem_append.mpr ⟨known, zeros count⟩) (zeros 1) .none using 1
  · rw [digitsValue_append_zeros, digitsValue_append_zeros, pow_one, pow_succ, mul_assoc]
  · simp
  · simp

/-- The point stands between two digits. -/
theorem writesDecimal_pointed_within {place : Nat} (positive : 0 < place) (inside : place < digits.length) :
    WritesDecimal (digitsValue digits) (place - digits.length) (digits.take place ++ '.' :: digits.drop place) := by
  have front : digits.take place ≠ [] := by
    rw [Ne, List.take_eq_nil_iff, not_or]
    exact ⟨positive.ne', nonempty⟩
  have before : ∀ digit ∈ digits.take place, digit.isDigit :=
    fun digit taken => known digit (List.mem_of_mem_take taken)
  have behind : ∀ digit ∈ digits.drop place, digit.isDigit :=
    fun digit dropped => known digit (List.mem_of_mem_drop dropped)
  convert WritesDecimal.pointed front before behind .none using 1
  · simp
  · simp
    omega
  · simp

/-- One digit stands in front of the point, which is missing if there are no others, and an exponent behind them. -/
theorem writesDecimal_scientific (exponent : Int) :
    WritesDecimal (digitsValue digits) (exponent + 1 - digits.length)
      (digits.take 1 ++ (if digits.length ≤ 1 then [] else '.' :: digits.drop 1) ++ exponentText exponent) := by
  obtain ⟨first, others, rfl⟩ := List.exists_cons_of_ne_nil nonempty
  obtain ⟨digit, behind⟩ := List.forall_mem_cons.mp known
  have written := writesExponent_exponentText exponent
  cases others with
  | nil =>
      convert WritesDecimal.whole nonempty known written using 1
      · simp
      · rfl
  | cons second others =>
      convert WritesDecimal.pointed (List.cons_ne_nil first []) (by simpa using digit) behind written using 1
      · simp
      · simp
      · simp

/-- Each layout of digits writes them with the point at its place. Zeros may have been put between the digits and the
point. -/
theorem exists_writesDecimal_layOut (point : Int) :
    ∃ zeros : Nat,
      WritesDecimal (digitsValue digits * 10 ^ zeros) (point - digits.length - zeros) (layOut true digits point) := by
  have unscaled {characters : List Char}
      (written : WritesDecimal (digitsValue digits) (point - digits.length) characters) :
      ∃ zeros : Nat, WritesDecimal (digitsValue digits * 10 ^ zeros) (point - digits.length - zeros) characters :=
    ⟨0, by simpa using written⟩
  rw [layOut, if_pos rfl]
  by_cases near : -4 < point ∧ point ≤ 16
  · rw [if_pos near]
    by_cases left : point ≤ 0
    · have written := writesDecimal_pointed_before known (-point).toNat
      rw [show -((-point).toNat : Int) = point by omega] at written
      rw [if_pos left]
      exact unscaled written
    · rw [if_neg left]
      lift point to Nat using by omega
      by_cases short : digits.length ≤ point
      · have written := writesDecimal_pointed_after nonempty known (point - digits.length)
        rw [Int.toNat_natCast, if_pos short]
        refine ⟨point - digits.length + 1, ?_⟩
        rwa [show (point : Int) - digits.length - (point - digits.length + 1 : Nat) = -1 by omega]
      · have written := writesDecimal_pointed_within nonempty known (show 0 < point by omega) (not_le.mp short)
        rw [Int.toNat_natCast, if_neg short]
        exact unscaled written
  · have written := writesDecimal_scientific nonempty known (point - 1)
    rw [sub_add_cancel] at written
    rw [if_neg near]
    exact unscaled written

end Layout

/-- A number is put together from its sign and its magnitude. -/
theorem eq_ofPattern (number : Binary64) :
    number = ofPattern (Format.double.signed number.negative number.magnitudeBits) := by
  rw [negative_eq, magnitudeBits_eq, Format.double.signed_decode, lowBits_bits, ofPattern, UInt64.ofNat_toNat]

/-- Magnitudes that are rounded to one number have one nearest pattern. -/
theorem nearest_eq_of_ofMagnitude {first second : Rat} (left : 0 ≤ first) (right : 0 ≤ second)
    (same : ofMagnitude false first = ofMagnitude false second) :
    Format.double.nearest first = Format.double.nearest second := by
  have pattern {value : Rat} (nonnegative : 0 ≤ value) :
      (ofMagnitude false value).magnitudeBits = Format.double.nearest value :=
    magnitudeBits_ofPattern false
      ((Format.double.nearest_roundsToEven nonnegative).1.trans_lt Format.double.exponentMask_lt_signBit)
  rw [← pattern left, same, pattern right]

/-- The shortest decimal of a finite magnitude is rounded to the magnitude. -/
theorem nearest_shortestDecimal {number : Binary64} (finite : number.magnitudeBits < Format.double.exponentMask)
    {mantissa : Nat} {exponent : Int}
    (chosen : shortestDecimal (ofMagnitude false number.decoded.magnitude) number.decoded.magnitude =
      (mantissa, exponent)) :
    Format.double.nearest (mantissa * (10 : Rat) ^ exponent) = number.magnitudeBits := by
  have value : number.decoded.magnitude = Format.double.magnitudeAt number.magnitudeBits := by
    rw [magnitudeBits_eq] at finite ⊢
    exact Format.double.decode_magnitude finite
  have nonnegative : 0 ≤ number.decoded.magnitude := value ▸ Format.double.magnitudeAt_nonneg _
  obtain ⟨count, binary⟩ := exists_den_eq_two_pow number.decoded.significand number.decoded.scale
  have read := ofDecimal_shortestDecimal rfl nonnegative binary
  rw [chosen, ofDecimal_eq] at read
  rw [nearest_eq_of_ofMagnitude (by positivity) nonnegative read, value, Format.double.nearest_magnitudeAt finite.le]

/-- The text of a positive magnitude lays out its shortest decimal. -/
theorem magnitudeText_of_pos {number : Binary64} (positive : 0 < number.magnitudeBits)
    (finite : number.magnitudeBits < Format.double.exponentMask) {mantissa : Nat} {exponent : Int}
    (chosen : shortestDecimal (ofMagnitude false number.decoded.magnitude) number.decoded.magnitude =
      (mantissa, exponent))
    {digits : List Char} {point : Int} (split : significantDigits mantissa exponent = (digits, point)) :
    number.magnitudeText true = layOut true digits point := by
  have known : number.decoded.category = .normal ∨ number.decoded.category = .subnormal := by
    rw [magnitudeBits_eq] at positive finite
    apply Format.nonzero_of_finite finite
    intro zero
    have value := Format.double.decode_magnitude finite
    rw [Decoded.magnitude, zero, Nat.cast_zero, zero_mul, ← Format.double.magnitudeAt_zero] at value
    exact positive.ne (Format.double.magnitudeAt_strictMono.injective value)
  rw [magnitudeText]
  rcases known with category | category <;> simp only [category, chosen, split]

/-- The text of a finite magnitude writes a decimal that is rounded to the magnitude. -/
theorem exists_writesDecimal_magnitudeText {number : Binary64}
    (finite : number.magnitudeBits < Format.double.exponentMask) :
    ∃ mantissa exponent, WritesDecimal mantissa exponent (number.magnitudeText true) ∧
      Format.double.nearest (mantissa * (10 : Rat) ^ exponent) = number.magnitudeBits := by
  rcases Nat.eq_zero_or_pos number.magnitudeBits with zero | positive
  · have category : number.decoded.category = Format.double.categoryOf number.magnitudeBits := by
      rw [magnitudeBits_eq]
      rfl
    have digit : ∀ digit ∈ ['0'], digit.isDigit := by simp
    have written := WritesDecimal.pointed (List.cons_ne_nil '0' []) digit digit .none
    rw [magnitudeText, category, zero]
    exact ⟨_, _, written, by simp [digitsValue, Format.nearest]⟩
  · generalize chosen : shortestDecimal (ofMagnitude false number.decoded.magnitude) number.decoded.magnitude = decimal
    obtain ⟨mantissa, exponent⟩ := decimal
    generalize split : significantDigits mantissa exponent = parts
    obtain ⟨digits, point⟩ := parts
    have nearest := nearest_shortestDecimal finite chosen
    have counted : 0 < mantissa := by
      rw [Nat.pos_iff_ne_zero]
      rintro rfl
      rw [← nearest, Nat.cast_zero, zero_mul] at positive
      exact absurd positive (by decide)
    obtain ⟨nonempty, known, dropped, whole, place⟩ := exists_significantDigits counted exponent split
    obtain ⟨added, written⟩ := exists_writesDecimal_layOut nonempty known point
    rw [magnitudeText_of_pos positive finite chosen split]
    refine ⟨_, _, written, ?_⟩
    have same : ((digitsValue digits * 10 ^ added : Nat) : Rat) * (10 : Rat) ^ (point - digits.length - added) =
        mantissa * (10 : Rat) ^ exponent := by
      rw [whole, show point - digits.length - added = (dropped : Int) + exponent - added by omega,
        zpow_sub₀ (by norm_num), zpow_add₀ (by norm_num)]
      push_cast
      simp only [zpow_natCast]
      field_simp
    rw [same, nearest]

/-- The text of a number writes a numeral that denotes it. Only a NaN loses the bits that its text does not show. -/
theorem exists_writesReal_characters (number : Binary64) :
    ∃ numeral, WritesReal numeral (number.characters true) ∧
      ofNumeral numeral = if number.isNaN then nan else number := by
  have put := number.eq_ofPattern
  rcases lt_trichotomy number.magnitudeBits Format.double.exponentMask with finite | infinite | isNaN
  · obtain ⟨mantissa, exponent, written, nearest⟩ := exists_writesDecimal_magnitudeText finite
    have notNaN : number.isNaN = false := decide_eq_false finite.not_gt
    refine ⟨.decimal number.negative mantissa exponent, ?_, ?_⟩
    · rw [characters, notNaN, Bool.not_false, Bool.and_true]
      exact .decimal number.negative written
    · rw [ofNumeral, ofDecimal_eq, ofMagnitude, nearest, notNaN]
      exact put.symm
  · have category : number.decoded.category = .infinite := by
      rw [magnitudeBits_eq] at infinite
      exact Format.double.category_eq_infinite_iff.mpr infinite
    have notNaN : number.isNaN = false := decide_eq_false infinite.not_gt
    refine ⟨.infinite number.negative, ?_, ?_⟩
    · rw [characters, magnitudeText, category, notNaN, Bool.not_false, Bool.and_true]
      exact .infinite number.negative
    · rw [ofNumeral, infinity, ← infinite, notNaN]
      exact put.symm
  · have category : number.decoded.category = .nan := by
      rw [magnitudeBits_eq] at isNaN
      exact Format.double.category_eq_nan_iff.mpr isNaN
    have known : number.isNaN = true := decide_eq_true isNaN
    refine ⟨.nan, ?_, ?_⟩
    · rw [characters, magnitudeText, category, known, Bool.not_true, Bool.and_false]
      exact .nan
    · rw [known]
      rfl

/-- Each number is read back from its text. -/
theorem ofText_text (number : Binary64) : ofText number.text = .ok (if number.isNaN then nan else number) := by
  obtain ⟨numeral, written, denoted⟩ := exists_writesReal_characters number
  rw [ofText, text, String.toList_ofList, readReal?_of_writesReal written, ← denoted]

end HalfPrecision.Binary64
