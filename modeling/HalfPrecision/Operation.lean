import HalfPrecision.Half.Integral
import HalfPrecision.Half.Line
import HalfPrecision.Half.Numeral
import HalfPrecision.Half.Order
import HalfPrecision.Value.Packing

/-! This file defines the operations that can be called on dynamic values, and what each call gives. -/

namespace HalfPrecision

/-- An operation on dynamic values. -/
inductive Operation where
  | lowBits
  | hexField
  | shiftRightAndRound
  | singleOfNumber
  | numberOfSingle
  | halfOfNumber
  | halfOfSingle
  | numberOfHalf
  | singleOfHalf
  | isNaN
  | isInfinite
  | isNormal
  | isZero
  | isSubnormal
  | category
  | sign
  | exponent
  | fraction
  | magnitude
  | equal
  | less
  | lessOrEqual
  | greater
  | greaterOrEqual
  | compare
  | min
  | max
  | totalOrderKey
  | toIntegral
  | ceil
  | floor
  | trunc
  | rint
  | roundHalfAway
  | hexText
  | halfOfText
  | describe
deriving DecidableEq, Repr

namespace Operation

/-- A function of one word. -/
def onWord (function : Int → Value) (word : Value) : Except Fault Value :=
  word.word.map function

/-- A function of two words, whose value is known once the first word is NaN. -/
def onWords (contaminated : Value) (function : Int → Int → Value) (first second : Value) : Except Fault Value := do
  let left ← first.word
  if Half.isNaN left then return contaminated
  let right ← second.word
  return function left right

/-- A predicate on two words that no NaN satisfies. -/
def onComparable (predicate : Int → Int → Bool) : Value → Value → Except Fault Value :=
  onWords (.bool false) fun left right => .bool (predicate left right)

def compareWords (first second : Value) : Except Fault Value := do
  let left ← first.word
  let right ← second.word
  return .int (Half.compare left right)

/-- The number of the default rounding mode. -/
def defaultMode : Value := .int 0

/-- Rounds a word to an integral half. The mode of a word that is not rounded is not looked at. -/
def roundToIntegral (word mode : Value) : Except Fault Value := do
  let number ← word.word
  let known ← if Half.isRounded number then mode.mode else pure .unlisted
  return .int (Half.toIntegral known number)

def shiftResult (significand sign shift mode : Value) : Except Fault Value := do
  let (rounded, carry) ← significand.shiftRightAndRound sign shift mode
  return .list [.int rounded, .bool carry]

/-- The word that a value denotes as text. -/
def readText (value : Value) : Except Fault Value :=
  match value with
  | .text content => ((Half.ofText content).mapError Fault.numeral).map Value.int
  | .brokenText codes => .error (.numeral (Half.refusalOf codes))
  | .bytes _ => .error .bytesForText
  | other => .error (.missing other.kind "lower")

/-- The value of an operation, if it takes that many operands. -/
def evaluate? : Operation → List Value → Option (Except Fault Value)
  | .lowBits, [length, word] => some ((length.lowBits word).map fun bits => .int bits)
  | .hexField, [length, word] => some ((length.hexField word).map Value.text)
  | .shiftRightAndRound, [significand, negative, shift] => some (shiftResult significand negative shift defaultMode)
  | .shiftRightAndRound, [significand, negative, shift, mode] => some (shiftResult significand negative shift mode)
  | .singleOfNumber, [number] => some (number.toSingle.map fun pattern => .int pattern)
  | .numberOfSingle, [word] => some (onWord (fun bits => .float (Binary64.ofSingle bits)) word)
  | .halfOfNumber, [number] => some (number.toSingle.map fun pattern => .int (Half.ofSingle pattern))
  | .halfOfSingle, [number] => some (number.singleWord.map fun bits => .int (Half.ofSingle bits))
  | .numberOfHalf, [word] => some (onWord (fun bits => .float (Half.toBinary64 bits)) word)
  | .singleOfHalf, [word] => some (onWord (fun bits => .int (Half.toSingle bits)) word)
  | .isNaN, [word] => some (onWord (fun bits => .bool (Half.isNaN bits)) word)
  | .isInfinite, [word] => some (onWord (fun bits => .bool (Half.isInfinite bits)) word)
  | .isNormal, [word] => some (onWord (fun bits => .bool (Half.isNormal bits)) word)
  | .isZero, [word] => some (onWord (fun bits => .bool (Half.isZero bits)) word)
  | .isSubnormal, [word] => some (onWord (fun bits => .bool (Half.isSubnormal bits)) word)
  | .category, [word] => some (onWord (fun bits => .text (Half.category bits).name) word)
  | .sign, [word] => some (onWord (fun bits => .int (Half.sign bits)) word)
  | .exponent, [word] => some (onWord (fun bits => .int (Half.exponent bits)) word)
  | .fraction, [word] => some (onWord (fun bits => .int (Half.fraction bits)) word)
  | .magnitude, [word] => some (onWord (fun bits => .int (Half.magnitude bits)) word)
  | .equal, [first, second] => some (onComparable Half.equal first second)
  | .less, [first, second] => some (onComparable Half.less first second)
  | .lessOrEqual, [first, second] => some (onComparable Half.lessOrEqual first second)
  | .greater, [first, second] => some (onComparable Half.greater first second)
  | .greaterOrEqual, [first, second] => some (onComparable Half.greaterOrEqual first second)
  | .compare, [first, second] => some (compareWords first second)
  | .min, [first, second] => some (onWords (.int Half.nan) (fun left right => .int (Half.min left right)) first second)
  | .max, [first, second] => some (onWords (.int Half.nan) (fun left right => .int (Half.max left right)) first second)
  | .totalOrderKey, [word] => some (onWord (fun bits => .int (Half.totalOrderKey bits)) word)
  | .toIntegral, [word] => some (roundToIntegral word defaultMode)
  | .toIntegral, [word, mode] => some (roundToIntegral word mode)
  | .ceil, [word] => some (onWord (fun bits => .int (Half.ceil bits)) word)
  | .floor, [word] => some (onWord (fun bits => .int (Half.floor bits)) word)
  | .trunc, [word] => some (onWord (fun bits => .int (Half.trunc bits)) word)
  | .rint, [word] => some (onWord (fun bits => .int (Half.rint bits)) word)
  | .roundHalfAway, [word] => some (onWord (fun bits => .int (Half.roundHalfAway bits)) word)
  | .hexText, [word] => some (onWord (fun bits => .text (Half.hexText bits)) word)
  | .halfOfText, [text] => some (readText text)
  | .describe, [word] => some (onWord (fun bits => .text (Half.describe false bits)) word)
  | .describe, [word, traced] => some (onWord (fun bits => .text (Half.describe traced.isTrue bits)) word)
  | _, _ => none

/-- Sorts the values that are words by the total order. Words with equal places keep their order. -/
def sort (values : List Value) : Except Fault (List Value) := do
  let keyed ← values.mapM fun value => do return (Half.totalOrderKey (← value.word), value)
  return (keyed.mergeSort fun first second => decide (first.1 ≤ second.1)).map Prod.snd

end Operation

end HalfPrecision
