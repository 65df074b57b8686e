import HalfPrecision.Operation
import HalfPrecision.Proofs.Half.Extremum
import HalfPrecision.Proofs.Half.Steps

/-!
This file shows that the operations on words look only at the low 16 bits of a word, give a value for every word, and
give patterns of 16 bits where they give halves.
-/

namespace HalfPrecision

namespace Half

theorem pattern_add_mul (word count : Int) : pattern (word + 65536 * count) = pattern word :=
  lowBits_add_mul 16 word count

section Congruence

variable {first second : Int} (same : pattern first = pattern second)

include same

theorem decode_congr : Format.half.decode first = Format.half.decode second := by
  have bits : lowBits Format.half.width first = lowBits Format.half.width second := same
  unfold Format.decode
  rw [bits]

theorem magnitude_congr : magnitude first = magnitude second := by
  rw [magnitude, magnitude, same]

theorem isNegative_congr : isNegative first = isNegative second := by
  rw [isNegative, isNegative, same]

theorem isInfinite_congr : isInfinite first = isInfinite second := by
  rw [isInfinite, isInfinite, magnitude_congr same]

theorem isZero_congr : isZero first = isZero second := by
  rw [isZero, isZero, magnitude_congr same]

theorem isSubnormal_congr : isSubnormal first = isSubnormal second := by
  rw [isSubnormal, isSubnormal, magnitude_congr same]

theorem isNormal_congr : isNormal first = isNormal second := by
  rw [isNormal, isNormal, magnitude_congr same]

theorem category_congr : category first = category second := by
  rw [category, category, isNaN_congr same, isInfinite_congr same, isZero_congr same, isSubnormal_congr same]

theorem orderedKey_congr : orderedKey first = orderedKey second := by
  rw [orderedKey, orderedKey, isNegative_congr same, magnitude_congr same]

theorem sign_congr : sign first = sign second := by
  rw [sign, sign, isNegative_congr same]

theorem exponent_congr : exponent first = exponent second := by
  rw [exponent, exponent, magnitude_congr same]

theorem fraction_congr : fraction first = fraction second := by
  rw [fraction, fraction, same]

theorem toSingle_congr : toSingle first = toSingle second := by
  rw [toSingle, toSingle, decode_congr same]

theorem toBinary64_congr : toBinary64 first = toBinary64 second := by
  rw [toBinary64, toBinary64, toSingle_congr same]

theorem toIntegral_congr (mode : RoundingMode) : toIntegral mode first = toIntegral mode second := by
  rw [toIntegral, toIntegral, decode_congr same]

theorem hexText_congr : hexText first = hexText second := by
  rw [hexText, hexText, decode_congr same]

theorem hexField_congr : hexField size first = hexField size second := by
  have bits : lowBits size first = lowBits size second := same
  rw [hexField, hexField, bits]

theorem describe_congr (traced : Bool) : describe traced first = describe traced second := by
  rw [describe, describe, line, line, trace, trace, hexField_congr same, category_congr same, toBinary64_congr same,
    hexText_congr same, sign_congr same, exponent_congr same, fraction_congr same]

end Congruence

section Pair

variable {first second left right : Int} (same : pattern first = pattern left) (along : pattern second = pattern right)

include same along

theorem comparable_congr : comparable first second = comparable left right := by
  rw [comparable, comparable, isNaN_congr same, isNaN_congr along]

theorem equal_congr : equal first second = equal left right := by
  rw [equal, equal, comparable_congr same along, orderedKey_congr same, orderedKey_congr along]

theorem less_congr : less first second = less left right := by
  rw [less, less, comparable_congr same along, orderedKey_congr same, orderedKey_congr along]

theorem lessOrEqual_congr : lessOrEqual first second = lessOrEqual left right := by
  rw [lessOrEqual, lessOrEqual, comparable_congr same along, orderedKey_congr same, orderedKey_congr along]

theorem greater_congr : greater first second = greater left right := by
  rw [greater, greater, comparable_congr same along, orderedKey_congr same, orderedKey_congr along]

theorem greaterOrEqual_congr : greaterOrEqual first second = greaterOrEqual left right := by
  rw [greaterOrEqual, greaterOrEqual, comparable_congr same along, orderedKey_congr same, orderedKey_congr along]

theorem compare_congr : compare first second = compare left right := by
  rw [compare, compare, totalOrderKey_congr same, totalOrderKey_congr along]

theorem min_congr : min first second = min left right := by
  rw [min, min, isNaN_congr same, isNaN_congr along, isZero_congr same, isZero_congr along, orderedKey_congr same,
    orderedKey_congr along, same, along]

theorem max_congr : max first second = max left right := by
  rw [max, max, isNaN_congr same, isNaN_congr along, isZero_congr same, isZero_congr along, orderedKey_congr same,
    orderedKey_congr along, same, along]

end Pair

/-- Only the low 32 bits of a word of binary32 matter. -/
theorem ofSingle_add_mul (word count : Int) : ofSingle (word + 2 ^ 32 * count) = ofSingle word := by
  have bits : lowBits Format.single.width (word + 2 ^ 32 * count) = lowBits Format.single.width word :=
    lowBits_add_mul 32 word count
  rw [ofSingle, ofSingle, Format.decode, Format.decode, bits]

theorem min_lt (first second : Int) : min first second < 65536 := by
  unfold min
  split_ifs
  · decide
  · exact Nat.or_lt_two_pow (n := 16) (pattern_lt first) (pattern_lt second)
  · exact pattern_lt second
  · exact pattern_lt first

theorem max_lt (first second : Int) : max first second < 65536 := by
  unfold max
  split_ifs
  · decide
  · exact Nat.and_lt_two_pow (n := 16) (pattern first) (pattern_lt second)
  · exact pattern_lt second
  · exact pattern_lt first

/-- The steps that could fail in an operation on a word. Words are cut to their low bits, packed into half precision or
binary32, and rounded in a mode. -/
structure Unfailing (word number : Int) : Prop where
  lowBits : Value.lowBits (.int 16) (.int word) = .ok (pattern word)
  lowBits_single : Value.lowBits (.int 32) (.int word) = .ok (HalfPrecision.lowBits 32 word)
  hexField : Value.hexField (.int 16) (.int word) = .ok (HalfPrecision.hexField 16 word)
  narrowed : Format.single.magnitudeBits word < Format.single.exponentMask →
    Value.normalized Format.half (.int (Format.single.decode word).significand)
      (.int (Format.single.decode word).exponent) (.bool (Format.single.decode word).negative) (.int 0) =
      .ok (ofSingle word)
  widened : Format.half.magnitudeBits word < Format.half.exponentMask →
    Value.normalized Format.single (.int (Format.half.decode word).significand)
      (.int (Format.half.decode word).exponent) (.bool (Format.half.decode word).negative) (.int 0) =
      .ok (toSingle word)
  rounded : isRounded word → ∃ (significand : Nat) (carry : Bool),
    Value.shiftRightAndRound (.int (Format.half.decode word).significand) (.bool (Format.half.decode word).negative)
      (.int (fractionBits (Format.half.decode word))) (.int number) = .ok ((significand : Int), carry) ∧
    Value.normalized Format.half (.int significand) (.int (bitLength significand - 1))
      (.bool (Format.half.decode word).negative) (.int 0) =
      .ok (toIntegral (RoundingMode.ofNumber number) word)

theorem unfailing (word number : Int) : Unfailing word number where
  lowBits := rfl
  lowBits_single := rfl
  hexField := rfl
  narrowed := normalized_ofSingle
  widened := normalized_toSingle
  rounded := fun rounds => exists_toIntegral_steps rounds number

end Half

/-- A value is a real number. NaN is among these. -/
inductive Value.RealNumber : Value → Prop where
  | bool (truth : Bool) : RealNumber (.bool truth)
  | int (number : Int) : RealNumber (.int number)
  | float (number : Binary64) : RealNumber (.float number)
  | fraction (value : Rat) : RealNumber (.fraction value)

theorem Value.RealNumber.exists_toSingle {number : Value} (real : number.RealNumber) :
    ∃ word, number.toSingle = .ok word := by
  cases real with
  | bool truth => exact ⟨_, rfl⟩
  | int number => exact ⟨_, rfl⟩
  | float number => exact ⟨_, rfl⟩
  | fraction value => exact ⟨_, rfl⟩

namespace Operation

/-- The operations on one word. -/
def unary : List Operation :=
  [.singleOfHalf, .numberOfHalf, .isNaN, .isInfinite, .isNormal, .isZero, .isSubnormal, .category, .sign, .exponent,
    .fraction, .magnitude, .totalOrderKey, .toIntegral, .ceil, .floor, .trunc, .rint, .roundHalfAway,
      .hexText, .describe]

/-- The operations on two words. -/
def binary : List Operation := [.equal, .less, .lessOrEqual, .greater, .greaterOrEqual, .compare, .min, .max]

/-- The operations on one word that give a half. -/
def halves : List Operation := [.toIntegral, .ceil, .floor, .trunc, .rint, .roundHalfAway, .magnitude]

theorem onWord_int (function : Int → Value) (word : Int) : onWord function (.int word) = .ok (function word) := rfl

theorem onWords_int (contaminated : Value) (function : Int → Int → Value) (first second : Int) :
    onWords contaminated function (.int first) (.int second) =
      .ok (if Half.isNaN first then contaminated else function first second) := by
  change (if Half.isNaN first then Except.ok contaminated else Except.ok (function first second)) = _
  split_ifs <;> rfl

theorem compareWords_int (first second : Int) :
    compareWords (.int first) (.int second) = .ok (.int (Half.compare first second)) := rfl

/-- The mode of a word that is not rounded is not looked at. -/
theorem roundToIntegral_of_not_isRounded {word : Int} (kept : ¬Half.isRounded word) (mode : Value) :
    roundToIntegral (.int word) mode = .ok (.int (HalfPrecision.lowBits 16 word)) := by
  change (do
    let known ← if Half.isRounded word then mode.mode else pure .unlisted
    return Value.int (Half.toIntegral known word) : Except Fault Value) = _
  rw [if_neg kept]
  exact congrArg (fun half : Nat => Except.ok (Value.int half)) (Half.toIntegral_of_not_isRounded _ kept)

theorem roundToIntegral_eq (word : Int) {mode : Value} {known : RoundingMode} (listed : mode.mode = .ok known) :
    roundToIntegral (.int word) mode = .ok (.int (Half.toIntegral known word)) := by
  by_cases rounds : Half.isRounded word
  · change (do
      let known ← if Half.isRounded word then mode.mode else pure .unlisted
      return Value.int (Half.toIntegral known word) : Except Fault Value) = _
    rw [if_pos rounds, listed]
    rfl
  · rw [roundToIntegral_of_not_isRounded rounds, Half.toIntegral_of_not_isRounded _ rounds]

theorem roundToIntegral_int (word number : Int) :
    roundToIntegral (.int word) (.int number) = .ok (.int (Half.toIntegral (RoundingMode.ofNumber number) word)) :=
  roundToIntegral_eq word (Value.mode_int number)

theorem evaluate?_unary {operation : Operation} (known : operation ∈ unary) {first second : Int}
    (same : Half.pattern first = Half.pattern second) :
    ∃ value, operation.evaluate? [.int first] = some (.ok value) ∧
      operation.evaluate? [.int second] = some (.ok value) := by
  simp only [unary, List.mem_cons, List.not_mem_nil, or_false] at known
  rcases known with rfl | rfl | rfl | rfl | rfl | rfl | rfl | rfl | rfl | rfl | rfl | rfl | rfl | rfl | rfl |
    rfl | rfl | rfl | rfl | rfl | rfl
  all_goals
    simp only [evaluate?, onWord_int, roundToIntegral_int, defaultMode, Half.ceil, Half.floor, Half.trunc, Half.rint,
      Half.roundHalfAway, Half.toSingle_congr same, Half.toBinary64_congr same, Half.isNaN_congr same,
      Half.isInfinite_congr same, Half.isNormal_congr same, Half.isZero_congr same, Half.isSubnormal_congr same,
      Half.category_congr same, Half.sign_congr same, Half.exponent_congr same, Half.fraction_congr same,
      Half.magnitude_congr same, Half.totalOrderKey_congr same, Half.toIntegral_congr same, Half.hexText_congr same,
      Half.describe_congr same, and_self]
    exact ⟨_, rfl⟩

theorem evaluate?_binary {operation : Operation} (known : operation ∈ binary) {first second left right : Int}
    (same : Half.pattern first = Half.pattern left) (along : Half.pattern second = Half.pattern right) :
    ∃ value, operation.evaluate? [.int first, .int second] = some (.ok value) ∧
      operation.evaluate? [.int left, .int right] = some (.ok value) := by
  simp only [binary, List.mem_cons, List.not_mem_nil, or_false] at known
  rcases known with rfl | rfl | rfl | rfl | rfl | rfl | rfl | rfl
  all_goals
    simp only [evaluate?, onComparable, onWords_int, compareWords_int, Half.isNaN_congr same,
      Half.equal_congr same along, Half.less_congr same along, Half.lessOrEqual_congr same along,
      Half.greater_congr same along, Half.greaterOrEqual_congr same along, Half.compare_congr same along,
      Half.min_congr same along, Half.max_congr same along, and_self]
    exact ⟨_, rfl⟩

theorem evaluate?_halves {operation : Operation} (known : operation ∈ halves) (word : Int) :
    ∃ half < 65536, operation.evaluate? [.int word] = some (.ok (.int (half : Nat))) := by
  simp only [halves, List.mem_cons, List.not_mem_nil, or_false] at known
  rcases known with rfl | rfl | rfl | rfl | rfl | rfl | rfl
  · exact ⟨_, Half.toIntegral_lt _ word, congrArg some (roundToIntegral_int word 0)⟩
  · exact ⟨_, Half.toIntegral_lt .upward word, rfl⟩
  · exact ⟨_, Half.toIntegral_lt .downward word, rfl⟩
  · exact ⟨_, Half.toIntegral_lt .towardZero word, rfl⟩
  · exact ⟨_, Half.toIntegral_lt .nearestEven word, rfl⟩
  · exact ⟨_, Half.toIntegral_lt .nearestAway word, rfl⟩
  · exact ⟨_, (Half.magnitude_lt word).trans (by decide), rfl⟩

/-- An operation that gives NaN for a first word that is NaN may leave the second one unread. -/
theorem onWords_half {function : Int → Int → Nat}
    (contaminated : ∀ first second, Half.isNaN first → function first second = Half.nan) (first second : Int) :
    onWords (.int Half.nan) (fun left right => .int (function left right)) (.int first) (.int second) =
      .ok (.int (function first second)) := by
  rw [onWords_int]
  split_ifs with isNaN
  · rw [contaminated first second isNaN]
  · rfl

theorem evaluate?_min_max (first second : Int) :
    (∃ half < 65536, Operation.min.evaluate? [.int first, .int second] = some (.ok (.int (half : Nat)))) ∧
    ∃ half < 65536, Operation.max.evaluate? [.int first, .int second] = some (.ok (.int (half : Nat))) := by
  have least (left right : Int) (isNaN : Half.isNaN left) : Half.min left right = Half.nan := by simp [Half.min, isNaN]
  have greatest (left right : Int) (isNaN : Half.isNaN left) : Half.max left right = Half.nan := by
    simp [Half.max, isNaN]
  exact ⟨⟨_, Half.min_lt first second, congrArg some (onWords_half least first second)⟩,
    ⟨_, Half.max_lt first second, congrArg some (onWords_half greatest first second)⟩⟩

/-- Operations on words never fail and look at the low 16 bits only. The halves that they give have no other bits. -/
theorem words_masked :
    (∀ operation ∈ unary, ∀ word count : Int, ∃ value,
      operation.evaluate? [.int word] = some (.ok value) ∧
      operation.evaluate? [.int (word + 65536 * count)] = some (.ok value)) ∧
    (∀ operation ∈ binary, ∀ first second count other : Int, ∃ value,
      operation.evaluate? [.int first, .int second] = some (.ok value) ∧
      operation.evaluate? [.int (first + 65536 * count), .int (second + 65536 * other)] = some (.ok value)) ∧
    (∀ word count mode : Int, ∃ half < 65536,
      toIntegral.evaluate? [.int word, .int mode] = some (.ok (.int (half : Nat))) ∧
      toIntegral.evaluate? [.int (word + 65536 * count), .int mode] = some (.ok (.int (half : Nat)))) ∧
    (∀ (word count : Int) (traced : Value), ∃ line,
      describe.evaluate? [.int word, traced] = some (.ok (.text line)) ∧
      describe.evaluate? [.int (word + 65536 * count), traced] = some (.ok (.text line))) ∧
    (∀ word count : Int, ∃ half < 65536,
      halfOfSingle.evaluate? [.int word] = some (.ok (.int (half : Nat))) ∧
      halfOfSingle.evaluate? [.int (word + 2 ^ 32 * count)] = some (.ok (.int (half : Nat)))) ∧
    (∀ number : Value, number.RealNumber → ∃ half < 65536,
      halfOfNumber.evaluate? [number] = some (.ok (.int (half : Nat)))) ∧
    (∀ operation ∈ halves, ∀ word : Int, ∃ half < 65536,
      operation.evaluate? [.int word] = some (.ok (.int (half : Nat)))) ∧
    (∀ first second : Int,
      (∃ half < 65536, Operation.min.evaluate? [.int first, .int second] = some (.ok (.int (half : Nat)))) ∧
      ∃ half < 65536, Operation.max.evaluate? [.int first, .int second] = some (.ok (.int (half : Nat)))) ∧
    ∀ word mode : Int, Half.Unfailing word mode := by
  have shifted (word count : Int) : Half.pattern word = Half.pattern (word + 65536 * count) :=
    (Half.pattern_add_mul word count).symm
  refine ⟨?_, ?_, ?_, ?_, ?_, ?_, ?_, evaluate?_min_max, Half.unfailing⟩
  · intro operation known word count
    exact evaluate?_unary known (shifted word count)
  · intro operation known first second count other
    exact evaluate?_binary known (shifted first count) (shifted second other)
  · intro word count mode
    refine ⟨_, Half.toIntegral_lt _ word, congrArg some (roundToIntegral_int word mode), ?_⟩
    rw [Half.toIntegral_congr (shifted word count)]
    exact congrArg some (roundToIntegral_int _ mode)
  · intro word count traced
    refine ⟨Half.describe traced.isTrue word, rfl, ?_⟩
    rw [Half.describe_congr (shifted word count)]
    rfl
  · intro word count
    refine ⟨Half.ofSingle word, Half.ofSingle_lt word, rfl, ?_⟩
    rw [← Half.ofSingle_add_mul word count]
    rfl
  · intro number real
    obtain ⟨word, single⟩ := real.exists_toSingle
    refine ⟨Half.ofSingle word, Half.ofSingle_lt word, ?_⟩
    change some (number.toSingle.map fun pattern => Value.int (Half.ofSingle pattern)) = _
    rw [single]
    rfl
  · intro operation known word
    exact evaluate?_halves known word

/-- Negative words and words of more than 16 bits, a fraction, and one and a half that is rounded upward. -/
theorem words_masked_wrapped :
    (∃ value, describe.evaluate? [.int (-1)] = some (.ok value) ∧
      describe.evaluate? [.int (-1 + 65536 * 3)] = some (.ok value)) ∧
    (∃ value, less.evaluate? [.int (-0x8000), .int 1] = some (.ok value) ∧
      less.evaluate? [.int (-0x8000 + 65536 * 5), .int (1 + 65536 * (-2))] = some (.ok value)) ∧
    (∃ half < 65536, halfOfNumber.evaluate? [.fraction (1 / 3)] = some (.ok (.int (half : Nat)))) ∧
    (∃ half < 65536, floor.evaluate? [.int (-0x3e00)] = some (.ok (.int (half : Nat)))) ∧
    ∃ (significand : Nat) (carry : Bool),
      Value.shiftRightAndRound (.int 0x600) (.bool false) (.int 10) (.int 3) = .ok ((significand : Int), carry) ∧
      Value.normalized Format.half (.int significand) (.int (bitLength significand - 1)) (.bool false) (.int 0) =
        .ok 0x4000 := by
  obtain ⟨one, two, -, -, -, real, halves, -, steps⟩ := words_masked
  exact ⟨one .describe (by decide) (-1) 3, two .less (by decide) (-0x8000) 1 5 (-2), real _ (.fraction (1 / 3)),
    halves .floor (by decide) (-0x3e00), (steps 0x3e00 3).rounded (by decide)⟩

end Operation

end HalfPrecision
