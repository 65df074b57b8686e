import HalfPrecision.Numeral.Integer

/-!
This file defines how numerals of real numbers are read: decimal digits with at most one point, single underscores
between digits, an exponent, or one of the names of infinity and NaN.
-/

namespace HalfPrecision.Numeral

/-- What a numeral of a real number denotes. -/
inductive RealNumeral where
  | nan
  | infinite (negative : Bool)
  /-- The mantissa times a power of ten. -/
  | decimal (negative : Bool) (mantissa : Nat) (exponent : Int)
deriving DecidableEq

/-- Drops underscores. Each must stand between two digits. -/
def dropUnderscores? (afterDigit : Bool) : List Char → Option (List Char)
  | [] => some []
  | ['_'] => none
  | '_' :: next :: rest =>
    if afterDigit && next.isDigit then (dropUnderscores? true rest).map (next :: ·) else none
  | character :: rest => (dropUnderscores? character.isDigit rest).map (character :: ·)

/-- Splits off the leading ASCII digits. -/
def spanDigits (characters : List Char) : List Char × List Char :=
  characters.span Char.isDigit

/-- The number that ASCII digits spell. -/
def digitsValue (digits : List Char) : Nat :=
  digits.foldl (fun value digit => value * 10 + (digit.toNat - '0'.toNat)) 0

/-- Reads an exponent, which may be missing. -/
def readExponent? : List Char → Option Int
  | [] => some 0
  | letter :: rest =>
    if letter.toLower = 'e' then
      let (negative, digits) := splitSign rest
      if digits.isEmpty || !digits.all Char.isDigit then none
      else some (if negative then -(digitsValue digits : Int) else digitsValue digits)
    else none

/-- Reads digits with at most one point and an exponent. -/
def readDecimal? (characters : List Char) : Option (Nat × Int) :=
  let (whole, rest) := spanDigits characters
  let (places, rest) :=
    match rest with
    | '.' :: rest => spanDigits rest
    | rest => ([], rest)
  if whole.isEmpty && places.isEmpty then none
  else (readExponent? rest).map fun exponent =>
    (digitsValue (whole ++ places), exponent - places.length)

/-- What a text without its sign denotes. -/
def readUnsigned? (negative : Bool) (characters : List Char) : Option RealNumeral :=
  let lower := characters.map Char.toLower
  if lower = "nan".toList then some .nan
  else if lower = "inf".toList ∨ lower = "infinity".toList then some (.infinite negative)
  else (readDecimal? characters).map fun (mantissa, exponent) => .decimal negative mantissa exponent

/-- What a numeral of a real number denotes. -/
def readReal? (characters : List Char) : Option RealNumeral :=
  (dropUnderscores? false (plainDigits characters)).bind fun plain =>
    let (negative, unsigned) := splitSign plain
    readUnsigned? negative unsigned

end HalfPrecision.Numeral
