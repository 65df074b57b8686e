import HalfPrecision.Operation
import HalfPrecision.Proofs.Binary64.Exact
import HalfPrecision.Proofs.Half.Convert
import HalfPrecision.Proofs.Half.Steps

/-!
This file compares two ways from binary64 to binary32 and half precision. A number that is packed into binary32 and a
number that is decoded and then packed as a significand with an exponent become the same word, and a word and the number
that it denotes become the same half.
-/

namespace HalfPrecision.Binary64

section NaN

variable {number : Binary64} (isNaN : Format.double.exponentMask < number.magnitudeBits)

include isNaN

/-- A NaN is packed into a NaN of its sign. -/
theorem packedSingle?_isNaN :
    ∃ pattern < Format.single.signBit, Format.single.exponentMask < pattern ∧
      number.packedSingle? = some (Format.single.signed number.negative pattern) := by
  rw [magnitudeBits_eq] at isNaN
  have fraction : number.decoded.fraction < 2 ^ 52 := Format.double.decode_fraction_lt number.bits.toNat
  have shifted : number.decoded.fraction >>> 29 < 2 ^ 23 := by
    rw [Nat.shiftRight_eq_div_pow]
    omega
  refine ⟨Format.single.quietNaN ||| number.decoded.fraction >>> 29, ?_, ?_, ?_⟩
  · exact Nat.or_lt_two_pow (n := 31) (by decide) (shifted.trans (by decide))
  · have quiet : Format.single.exponentMask < Format.single.quietNaN := by decide
    exact quiet.trans_le Nat.left_le_or
  · refine (Format.double.category_match number.bits.toNat _ _ _).trans ?_
    rw [if_pos isNaN]
    rfl

theorem exists_toSingle_isNaN :
    ∃ pattern < Format.single.signBit, Format.single.exponentMask < pattern ∧
      number.toSingle = Format.single.signed number.negative pattern := by
  obtain ⟨pattern, below, above, packed⟩ := packedSingle?_isNaN isNaN
  exact ⟨pattern, below, above, by rw [toSingle, packed]⟩

/-- All NaNs become the one NaN of half precision, whatever they hold. -/
theorem ofBinary64_isNaN : Half.ofBinary64 number = Half.nan := by
  obtain ⟨pattern, below, above, single⟩ := exists_toSingle_isNaN isNaN
  rw [Half.ofBinary64, single, Half.ofSingle_eq, Format.magnitudeBits_signed _ below, if_pos above]

end NaN

/-- Packing the significand and the exponent of a finite number gives the word that the number itself is packed into.
Where the number is too large to be packed, both are the infinity of its sign. -/
theorem normalized_decoded {number : Binary64} (finite : number.magnitudeBits < Format.double.exponentMask) :
    Value.normalized Format.single (.int number.decoded.significand) (.int number.decoded.exponent)
      (.bool number.decoded.negative) (.int 0) = .ok number.toSingle := by
  obtain ⟨middle, nearest, -, single⟩ := toSingle_finite finite
  rw [magnitudeBits_eq] at finite nearest
  obtain ⟨pattern, rounds, packed⟩ :=
    Format.exists_normalized_decode_rounds Format.double Format.single .nearestEven finite
  have same : pattern = middle := Format.RoundsToEven.unique rounds nearest
  rw [decoded, Value.normalized_decode_int Format.double Format.single finite (by decide), single, ← same]
  exact congrArg Except.ok packed

/-- Reading a word as a number and rounding the number gives the half of the word. -/
theorem ofBinary64_ofSingle (word : Int) : Half.ofBinary64 (ofSingle word) = Half.ofSingle word := by
  by_cases isNaN : Format.single.exponentMask < Format.single.magnitudeBits word
  · rw [Half.ofSingle_eq, if_pos isNaN]
    exact ofBinary64_isNaN (magnitudeBits_ofSingle isNaN)
  · rw [Half.ofBinary64, toSingle_ofSingle (not_lt.mp isNaN)]
    rw [Half.ofSingle, Half.ofSingle, Format.decode, Format.decode, lowBits_lowBits]

end HalfPrecision.Binary64

namespace HalfPrecision.Operation

section Number

variable (number : Binary64)

theorem singleOfNumber_float : singleOfNumber.evaluate? [.float number] = some (.ok (.int number.toSingle)) := rfl

theorem halfOfNumber_float : halfOfNumber.evaluate? [.float number] = some (.ok (.int (Half.ofBinary64 number))) := rfl

theorem halfOfSingle_float : halfOfSingle.evaluate? [.float number] = some (.ok (.int (Half.ofBinary64 number))) := rfl

end Number

/-- Conversions of numbers and of words agree, so a word, the number that it denotes and the word of that number become
one half. -/
theorem single_paths_agree :
    (∀ number : Binary64, number.magnitudeBits < Format.double.exponentMask →
      ∃ (decoded : Decoded) (nearest : Nat), Value.formatOf 64 52 = .ok Format.double ∧
        Value.decoded Format.double (.int number.bits.toNat) = .ok decoded ∧
        Format.single.RoundsToEven |Format.double.valueAt number.bits.toNat| nearest ∧
        number.packedSingle? = (if nearest = Format.single.exponentMask then none
          else some (Format.single.signed decoded.negative nearest)) ∧
        singleOfNumber.evaluate? [.float number] = some (.ok (.int (Format.single.signed decoded.negative nearest))) ∧
        Value.normalized Format.single (.int decoded.significand) (.int decoded.exponent)
          (.bool decoded.negative) (.int 0) =
          .ok (Format.single.signed decoded.negative nearest)) ∧
    (∀ number : Binary64, number.magnitudeBits = Format.double.exponentMask →
      singleOfNumber.evaluate? [.float number] =
        some (.ok (.int (if number.negative then 0xff800000 else 0x7f800000)))) ∧
    (∀ number : Binary64, Format.double.exponentMask < number.magnitudeBits →
      (∃ word : Nat, singleOfNumber.evaluate? [.float number] = some (.ok (.int word)) ∧ 0x7f800000 < word % 2 ^ 31) ∧
      halfOfNumber.evaluate? [.float number] = some (.ok (.int 0x7e00)) ∧
      halfOfSingle.evaluate? [.float number] = some (.ok (.int 0x7e00))) ∧
    (∀ word : Int, HalfPrecision.lowBits 32 word % 2 ^ 31 ≤ 0x7f800000 →
      ∃ number : Binary64, numberOfSingle.evaluate? [.int word] = some (.ok (.float number)) ∧
        number.extended? = some (Format.single.extended (decide (HalfPrecision.lowBits 32 word / 2 ^ 31 = 1))
          (HalfPrecision.lowBits 32 word % 2 ^ 31)) ∧
        singleOfNumber.evaluate? [.float number] = some (.ok (.int (word % 2 ^ 32)))) ∧
    ∀ word : Int, ∃ (number : Binary64) (half : Nat),
      numberOfSingle.evaluate? [.int word] = some (.ok (.float number)) ∧
      (0x7f800000 < HalfPrecision.lowBits 32 word % 2 ^ 31 → number.isNaN ∧ half = 0x7e00) ∧
      halfOfNumber.evaluate? [.float number] = some (.ok (.int half)) ∧
      halfOfSingle.evaluate? [.float number] = some (.ok (.int half)) ∧
      halfOfSingle.evaluate? [.int word] = some (.ok (.int half)) := by
  refine ⟨?_, ?_, ?_, ?_, ?_⟩
  · intro number finite
    obtain ⟨nearest, rounds, packed, single⟩ := Binary64.toSingle_finite finite
    have magnitude : |Format.double.valueAt number.bits.toNat| = Format.double.magnitudeAt number.magnitudeBits :=
      Format.double.abs_valueAt number.bits.toNat
    have decodedPacked := Binary64.normalized_decoded finite
    rw [single] at decodedPacked
    refine ⟨number.decoded, nearest, by decide, rfl, magnitude ▸ rounds, packed, ?_, decodedPacked⟩
    rw [singleOfNumber_float, single, Binary64.negative]
  · intro number infinite
    have single : number.toSingle = Format.single.signed number.negative Format.single.exponentMask := by
      rw [Binary64.toSingle, Binary64.packedSingle?_infinite infinite]
    rw [singleOfNumber_float, single]
    cases number.negative <;> rfl
  · intro number isNaN
    rw [halfOfNumber_float, halfOfSingle_float, Binary64.ofBinary64_isNaN isNaN]
    obtain ⟨pattern, below, above, single⟩ := Binary64.exists_toSingle_isNaN isNaN
    refine ⟨⟨number.toSingle, singleOfNumber_float number, ?_⟩, rfl, rfl⟩
    rw [single]
    exact above.trans_eq (Format.signed_mod _ number.negative below).symm
  · intro word notNaN
    refine ⟨Binary64.ofSingle word, rfl, Binary64.extended?_ofSingle notNaN, ?_⟩
    rw [singleOfNumber_float, Binary64.toSingle_ofSingle notNaN, natCast_lowBits]
    rfl
  · intro word
    refine ⟨Binary64.ofSingle word, Half.ofSingle word, rfl, ?_, ?_, ?_, rfl⟩
    · intro isNaN
      have known : Format.single.exponentMask < Format.single.magnitudeBits word := isNaN
      rw [Half.ofSingle_eq, if_pos known]
      exact ⟨(Binary64.isNaN_iff _).mpr (Binary64.magnitudeBits_ofSingle known), rfl⟩
    · rw [halfOfNumber_float, Binary64.ofBinary64_ofSingle]
    · rw [halfOfSingle_float, Binary64.ofBinary64_ofSingle]

/-- The lowest finite number, an infinity, NaNs with other bits than that of half precision, and a negative zero. -/
theorem single_paths_agree_ends :
    (∃ (decoded : Decoded) (word : Nat), Value.decoded Format.double (.int 0xffefffffffffffff) = .ok decoded ∧
      singleOfNumber.evaluate? [.float (Binary64.ofPattern 0xffefffffffffffff)] = some (.ok (.int word)) ∧
      Value.normalized Format.single (.int decoded.significand) (.int decoded.exponent)
        (.bool decoded.negative) (.int 0) =
        .ok word) ∧
    singleOfNumber.evaluate? [.float (Binary64.infinity true)] = some (.ok (.int 0xff800000)) ∧
    halfOfNumber.evaluate? [.float (Binary64.ofPattern 0x7ff0000000000001)] = some (.ok (.int 0x7e00)) ∧
    (∃ number : Binary64, numberOfSingle.evaluate? [.int (-0x80000000)] = some (.ok (.float number)) ∧
      singleOfNumber.evaluate? [.float number] = some (.ok (.int 0x80000000))) ∧
    ∃ number : Binary64, numberOfSingle.evaluate? [.int (-1)] = some (.ok (.float number)) ∧ number.isNaN ∧
      halfOfSingle.evaluate? [.float number] = some (.ok (.int 0x7e00)) := by
  obtain ⟨finite, infinite, isNaN, words, halves⟩ := single_paths_agree
  refine ⟨?_, infinite (Binary64.infinity true) (by decide), (isNaN _ (by decide)).2.1, ?_, ?_⟩
  · obtain ⟨decoded, nearest, -, known, -, -, number, packed⟩ :=
      finite (Binary64.ofPattern 0xffefffffffffffff) (by decide)
    exact ⟨decoded, _, known, number, packed⟩
  · obtain ⟨number, read, -, kept⟩ := words (-0x80000000) (by decide)
    exact ⟨number, read, kept⟩
  · obtain ⟨number, half, read, special, -, kept, -⟩ := halves (-1)
    obtain ⟨known, rfl⟩ := special (by decide)
    exact ⟨number, read, known, kept⟩

end HalfPrecision.Operation
