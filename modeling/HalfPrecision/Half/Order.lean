import HalfPrecision.Half.Constants
import HalfPrecision.Half.Classify

/-!
This file defines the comparisons of half precision words. The predicates are false on NaN and equate the two
zeros. The total order puts the negative zero below the positive one, and all NaNs together above infinity.
-/

namespace HalfPrecision.Half

/-- A number ordered as the value of a word that is not NaN. Both zeros give zero. -/
def orderedKey (word : Int) : Int :=
  if isNegative word then -(magnitude word : Int) else magnitude word

/-- Neither word is NaN. -/
def comparable (first second : Int) : Bool := !(isNaN first || isNaN second)

def equal (first second : Int) : Bool :=
  comparable first second && decide (orderedKey first = orderedKey second)

def less (first second : Int) : Bool :=
  comparable first second && decide (orderedKey first < orderedKey second)

def lessOrEqual (first second : Int) : Bool :=
  comparable first second && decide (orderedKey first ≤ orderedKey second)

def greater (first second : Int) : Bool :=
  comparable first second && decide (orderedKey second < orderedKey first)

def greaterOrEqual (first second : Int) : Bool :=
  comparable first second && decide (orderedKey second ≤ orderedKey first)

/-- The place of a word in the total order. -/
def totalOrderKey (word : Int) : Int :=
  if isNaN word then Format.half.signBit
  else if isNegative word then -(magnitude word : Int) - 1
  else magnitude word

/-- Negative, zero or positive as the first word comes before, with or after the second in the total order. -/
def compare (first second : Int) : Int :=
  let left := totalOrderKey first
  let right := totalOrderKey second
  (if left > right then 1 else 0) - (if left < right then 1 else 0)

/-- Sorts words by the total order. Words with equal places keep their order. -/
def sort (words : List Int) : List Int :=
  words.mergeSort fun first second => decide (totalOrderKey first ≤ totalOrderKey second)

/-- The smaller of two words, where the negative zero is below the positive one and NaN wins over all. -/
def min (first second : Int) : Nat :=
  if isNaN first || isNaN second then nan
  else if isZero first && isZero second then pattern first ||| pattern second
  else if orderedKey second < orderedKey first then pattern second
  else pattern first

/-- The larger of two words, where the positive zero is above the negative one and NaN wins over all. -/
def max (first second : Int) : Nat :=
  if isNaN first || isNaN second then nan
  else if isZero first && isZero second then pattern first &&& pattern second
  else if orderedKey first < orderedKey second then pattern second
  else pattern first

end HalfPrecision.Half
