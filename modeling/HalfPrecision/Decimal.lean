import HalfPrecision.Binary64.Decimal

/-!
This file defines decimal numbers, which keep their digits and exponent. They are read from numerals and written in
scientific notation when the exponent is positive or the leading digit is too far behind the point.
-/

namespace HalfPrecision

/-- A decimal number. -/
inductive Decimal where
  | finite (negative : Bool) (coefficient : Nat) (exponent : Int)
  | infinite (negative : Bool)
  | nan (negative signaling : Bool) (payload : Nat)
deriving DecidableEq

namespace Decimal

/-- Reads the payload that may follow the name of a NaN. -/
def readPayload? (negative signaling : Bool) (digits : List Char) : Option Decimal :=
  if digits.all Char.isDigit then some (.nan negative signaling (Numeral.digitsValue digits)) else none

/-- Reads a decimal without its sign. -/
def readUnsigned? (negative : Bool) (characters : List Char) : Option Decimal :=
  match characters.map Char.toLower with
  | 's' :: 'n' :: 'a' :: 'n' :: digits => readPayload? negative true digits
  | 'n' :: 'a' :: 'n' :: digits => readPayload? negative false digits
  | lower =>
    if lower = "inf".toList ∨ lower = "infinity".toList then some (.infinite negative)
    else (Numeral.readDecimal? lower).map fun (coefficient, exponent) => .finite negative coefficient exponent

/-- Reads a decimal. Underscores are ignored. -/
def ofText? (text : String) : Option Decimal :=
  let plain := (Numeral.plainDigits text.toList).filter (· != '_')
  let (negative, unsigned) := Numeral.splitSign plain
  readUnsigned? negative unsigned

/-- Writes an exponent that is not zero with its sign. -/
def exponentText (exponent : Int) : List Char :=
  if exponent = 0 then []
  else 'E' :: (if exponent < 0 then '-' else '+') :: Nat.toDigits 10 exponent.natAbs

/-- Writes digits with a point after the first `place` of them. -/
def pointAt (digits : List Char) (place : Int) : List Char :=
  if place ≤ 0 then '0' :: '.' :: List.replicate (-place).toNat '0' ++ digits
  else if digits.length ≤ place.toNat then digits ++ List.replicate (place.toNat - digits.length) '0'
  else digits.take place.toNat ++ '.' :: digits.drop place.toNat

/-- The text of a decimal without its sign. -/
def magnitudeText : Decimal → List Char
  | .finite _ coefficient exponent =>
    let digits := Nat.toDigits 10 coefficient
    let leading := exponent + digits.length
    let place := if exponent ≤ 0 ∧ -6 < leading then leading else 1
    pointAt digits place ++ exponentText (leading - place)
  | .infinite _ => "Infinity".toList
  | .nan _ signaling payload =>
    (if signaling then "sNaN" else "NaN").toList ++ (if payload = 0 then [] else Nat.toDigits 10 payload)

def negative : Decimal → Bool
  | .finite negative _ _ => negative
  | .infinite negative => negative
  | .nan negative _ _ => negative

/-- The text of a decimal. -/
def text (decimal : Decimal) : String :=
  String.ofList (if decimal.negative then '-' :: decimal.magnitudeText else decimal.magnitudeText)

/-- The binary64 number nearest to a decimal. A signaling NaN has none. -/
def toBinary64? : Decimal → Option Binary64
  | .finite negative coefficient exponent => some (Binary64.ofDecimal negative coefficient exponent)
  | .infinite negative => some (Binary64.infinity negative)
  | .nan _ signaling _ => if signaling then none else some Binary64.nan

end Decimal

end HalfPrecision
