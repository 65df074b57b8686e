import HalfPrecision.Binary64.Decimal
import HalfPrecision.Proofs.Binary64.Exact

/-!
This file shows that decimals and binary64 numbers are exchanged without loss. A decimal is rounded to its nearest
number, however large its exponent is, and the shortest decimal of a number is rounded to the number itself.
-/

namespace HalfPrecision

/-- A number has as many digits as the power of ten above it has zeros. -/
theorem decimalLength_bounds {number : Nat} (positive : 0 < number) :
    (10 : Rat) ^ (decimalLength number - 1 : Int) ≤ number ∧
      (number : Rat) < (10 : Rat) ^ (decimalLength number : Int) := by
  have nonempty : 0 < decimalLength number := Nat.length_toDigits_pos
  have short {count : Nat} (counted : 0 < count) : decimalLength number ≤ count ↔ number < 10 ^ count :=
    Nat.length_toDigits_le_iff (by decide) counted
  constructor
  · have reached : 10 ^ (decimalLength number - 1) ≤ number := by
      rcases Nat.eq_zero_or_pos (decimalLength number - 1) with none | some
      · rw [none]
        exact positive
      · exact Nat.le_of_not_lt fun below => absurd ((short some).mpr below) (by omega)
    rw [← Nat.cast_pred nonempty, zpow_natCast]
    exact_mod_cast reached
  · rw [zpow_natCast]
    exact_mod_cast (short nonempty).mp le_rfl

/-- The denominator of a fraction over a power of two is a power of two. -/
theorem exists_den_eq_two_pow (significand : Nat) (scale : Int) :
    ∃ count, (significand * (2 : Rat) ^ scale).den = 2 ^ count := by
  rcases Int.le_total 0 scale with whole | small
  · lift scale to Nat using whole
    refine ⟨0, ?_⟩
    rw [zpow_natCast, show (significand : Rat) * 2 ^ scale = ((significand * 2 ^ scale : Nat) : Rat) by push_cast; rfl]
    rfl
  · obtain ⟨count, rfl⟩ := Int.exists_eq_neg_ofNat small
    have divides : ((significand : Rat) * (2 : Rat) ^ (-(count : Int))).den ∣ 2 ^ count := by
      have divided := Rat.den_dvd significand (2 ^ count)
      rw [← Rat.intCast_div_eq_divInt, Int.cast_natCast, Int.cast_pow, Int.cast_ofNat] at divided
      rw [zpow_neg, zpow_natCast, ← div_eq_mul_inv, ← Int.natCast_dvd_natCast, Nat.cast_pow]
      exact divided
    obtain ⟨power, -, same⟩ := (Nat.dvd_prime_pow Nat.prime_two).mp divides
    exact ⟨power, same⟩

namespace Binary64

theorem ofMagnitude_zero (negative : Bool) : ofMagnitude negative 0 = zero negative := rfl

/-- The product of 93 twos is less than that of 28 tens. The powers at the ends of the range are compared by such
factors. -/
theorem two_pow_le_ten_pow (count : Nat) : (2 : Rat) ^ (93 * count) ≤ 10 ^ (28 * count) := by
  rw [pow_mul, pow_mul]
  gcongr
  norm_num

theorem ofMagnitude_of_overflow (negative : Bool) {value : Rat} (large : (10 : Rat) ^ (310 : Int) ≤ value) :
    ofMagnitude negative value = infinity negative := by
  have reached : Format.double.magnitudeAt Format.double.exponentMask ≤ value := by
    calc Format.double.magnitudeAt Format.double.exponentMask
        = 2 ^ (93 * 11) * 2 := by rw [Format.magnitudeAt_exponentMask, ← pow_succ]; rfl
      _ ≤ 10 ^ (28 * 11) * 10 ^ 2 := by gcongr; exact two_pow_le_ten_pow 11; norm_num
      _ = (10 : Rat) ^ (310 : Int) := by rw [← pow_add]; rfl
      _ ≤ value := large
  rw [ofMagnitude, Format.double.nearest_of_overflow reached, infinity]

theorem ofMagnitude_of_underflow (negative : Bool) {value : Rat} (nonnegative : 0 ≤ value)
    (small : value ≤ (10 : Rat) ^ (-331 : Int)) : ofMagnitude negative value = zero negative := by
  have middle : (10 : Rat) ^ (-331 : Int) ≤ Format.double.midpoint 0 := by
    have powers : (2 : Rat) ^ 1075 ≤ 10 ^ 331 := by
      calc (2 : Rat) ^ 1075
          = 2 ^ (93 * 11) * 2 ^ 52 := by rw [← pow_add]
        _ ≤ 10 ^ (28 * 11) * 10 ^ 23 := by gcongr; exact two_pow_le_ten_pow 11; norm_num
        _ = 10 ^ 331 := by rw [← pow_add]
    rw [Format.midpoint_zero_eq,
      show (-(Format.double.bias : Int) - Format.double.fractionWidth) = -(1075 : Nat) by decide,
      show (-331 : Int) = -(331 : Nat) by decide, zpow_neg, zpow_neg, zpow_natCast, zpow_natCast]
    exact inv_anti₀ (by positivity) powers
  have none := (Format.double.nearest_roundsToEven nonnegative).eq_zero_iff.mpr (small.trans middle)
  rw [ofMagnitude, none, zero]

/-- A decimal is rounded to its nearest number. The powers of ten that are not computed are too large or too small. -/
theorem ofDecimal_eq (negative : Bool) (mantissa : Nat) (exponent : Int) :
    ofDecimal negative mantissa exponent = ofMagnitude negative (mantissa * (10 : Rat) ^ exponent) := by
  rcases Nat.eq_zero_or_pos mantissa with rfl | positive
  · simp [ofDecimal, ofMagnitude_zero]
  obtain ⟨low, high⟩ := decimalLength_bounds positive
  have least : (10 : Rat) ^ (decimalLength mantissa + exponent - 1) ≤ mantissa * (10 : Rat) ^ exponent := by
    rw [show decimalLength mantissa + exponent - 1 = (decimalLength mantissa - 1 : Int) + exponent by ring,
      zpow_add₀ (by norm_num)]
    gcongr
  have most : mantissa * (10 : Rat) ^ exponent ≤ (10 : Rat) ^ (decimalLength mantissa + exponent) := by
    rw [zpow_add₀ (by norm_num)]
    gcongr
  rw [ofDecimal, if_neg positive.ne']
  dsimp only
  split_ifs with large small
  · refine (ofMagnitude_of_overflow negative (le_trans ?_ least)).symm
    exact zpow_le_zpow_right₀ (by norm_num) (by omega)
  · refine (ofMagnitude_of_underflow negative (by positivity) (most.trans ?_)).symm
    exact zpow_le_zpow_right₀ (by norm_num) (by omega)
  · rfl

/-- All digits of a fraction over a power of two denote it. -/
theorem exactDecimal_eq {value : Rat} (nonnegative : 0 ≤ value) {count : Nat} (binary : value.den = 2 ^ count) :
    (exactDecimal value).1 * (10 : Rat) ^ (exactDecimal value).2 = value := by
  have places : value.den.log2 = count := by rw [binary, Nat.log2_two_pow]
  have denominator : (value.den : Rat) = 2 ^ count := by rw [binary]; push_cast; rfl
  have whole : value * (10 : Rat) ^ (count : Int) = (value.num * 5 ^ count : Int) := by
    nth_rewrite 1 [← Rat.num_div_den value]
    rw [denominator, zpow_natCast, show (10 : Rat) = 2 * 5 by norm_num, mul_pow]
    push_cast
    field_simp
  have digits : ((value.num * 5 ^ count).natAbs : Rat) = value * (10 : Rat) ^ (count : Int) := by
    have positive : 0 ≤ value.num * 5 ^ count := mul_nonneg (Rat.num_nonneg.mpr nonnegative) (by positivity)
    rw [whole, Nat.cast_natAbs, abs_of_nonneg positive]
  rw [exactDecimal, places]
  dsimp only
  rw [whole, Rat.num_intCast, digits, mul_assoc, ← zpow_add₀ (by norm_num), add_neg_cancel, zpow_zero, mul_one]

/-- A decimal that is found by its count of digits is rounded to the number. -/
theorem ofDecimal_of_decimalOfLength? {number : Binary64} {value : Rat} {count : Nat} {found : Nat × Int}
    (chosen : decimalOfLength? number value count = some found) : ofDecimal false found.1 found.2 = number := by
  unfold decimalOfLength? at chosen
  dsimp only at chosen
  split_ifs at chosen with nearer farther
  · exact Option.some.inj chosen ▸ nearer
  · exact Option.some.inj chosen ▸ farther

/-- The shortest decimal of a number is rounded to the number. -/
theorem ofDecimal_shortestDecimal {number : Binary64} {value : Rat} (same : ofMagnitude false value = number)
    (nonnegative : 0 ≤ value) {count : Nat} (binary : value.den = 2 ^ count) :
    ofDecimal false (shortestDecimal number value).1 (shortestDecimal number value).2 = number := by
  unfold shortestDecimal
  cases found : (List.range 17).findSome? fun fewer => decimalOfLength? number value (fewer + 1) with
  | some decimal =>
      obtain ⟨fewer, -, known⟩ := List.exists_of_findSome?_eq_some found
      exact ofDecimal_of_decimalOfLength? known
  | none =>
      rw [Option.getD_none, ofDecimal_eq, exactDecimal_eq nonnegative binary, same]

end Binary64

end HalfPrecision
