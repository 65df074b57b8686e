import HalfPrecision.Binary64.Decimal
import HalfPrecision.Text.Base64
import HalfPrecision.Value
import HalfPrecision.Yaml.Refusal
import HalfPrecision.Yaml.Schema

/-! This file defines the values of scalars: truth values, numbers in several bases, dates and times. -/

namespace HalfPrecision.Yaml.Scalar

/-- The truth values by their words. -/
def truths : List (String × Bool) :=
  [("yes", true), ("no", false), ("true", true), ("false", false), ("on", true), ("off", false)]

def truth (text : String) : Except Refusal Value :=
  let word := text.map Char.toLower
  match truths.lookup word with
  | some truth => .ok (.bool truth)
  | none => .error (.truth word)

/-- Splits the sign off a number, which must not be empty. -/
def signed (characters : List Char) : Except Refusal (Bool × List Char) :=
  if characters.isEmpty then .error .emptyNumber else .ok (Numeral.splitSign characters)

def readInteger (base : Nat) (digits : List Char) : Except Refusal Int :=
  (Numeral.readInteger base (String.ofList digits)).mapError .numeral

/-- The value of digits in base 60, the first one with the largest weight. -/
def sexagesimal (digits : List Int) : Int :=
  digits.foldl (fun value digit => value * 60 + digit) 0

/-- The magnitude of an integer in the base that its first characters tell. -/
def unsignedInteger (characters : List Char) : Except Refusal Int :=
  match characters with
  | [] => .error .emptyNumber
  | ['0'] => .ok 0
  | '0' :: 'b' :: digits => readInteger 2 digits
  | '0' :: 'x' :: digits => readInteger 16 digits
  | '0' :: _ => readInteger 8 characters
  | _ =>
    if characters.contains ':' then (Schema.splitColons characters).mapM (readInteger 10) |>.map sexagesimal
    else readInteger 10 characters

def integer (text : String) : Except Refusal Value := do
  let (negative, characters) ← signed (text.toList.filter (· != '_'))
  let number ← unsignedInteger characters
  return .int (if negative then -number else number)

/-- Adds up digits in base 60 from the last one on, each with its weight rounded. -/
def addSixtieths (value : Binary64) (weight : Nat) : List Binary64 → Except Refusal Binary64
  | [] => .ok value
  | digit :: rest =>
    match Binary64.ofRat? weight with
    | none => .error .weightTooLarge
    | some rounded => addSixtieths (value.add (digit.mul rounded)) (weight * 60) rest

def readFloat (characters : List Char) : Except Refusal Binary64 :=
  (Binary64.ofText (String.ofList characters)).mapError .numeral

/-- The magnitude of a number with a point. -/
def unsignedFloat (characters : List Char) : Except Refusal Binary64 :=
  if characters = ".inf".toList then .ok (Binary64.infinity false)
  else if characters.contains ':' then do
    let digits ← (Schema.splitColons characters).mapM readFloat
    addSixtieths (Binary64.zero false) 1 digits.reverse
  else readFloat characters

def float (text : String) : Except Refusal Value := do
  let (negative, characters) ← signed ((text.toList.filter (· != '_')).map Char.toLower)
  if characters = ".nan".toList then return .float Binary64.nan
  let number ← unsignedFloat characters
  return .float (if negative then number.negate else number)

/-- The first six digits of a fraction of a second, filled up with zeros. -/
def microsecond (digits : List Char) : Nat :=
  Schema.number ((digits ++ List.replicate 6 '0').take 6)

/-- The value of the parts of a time. -/
def timeOf (parts : Schema.TimeParts) : Except CalendarRefusal Value :=
  let year := Schema.number parts.year
  let month := Schema.number parts.month
  let day := Schema.number parts.day
  match parts.clock with
  | none => (Date.ofParts year month day).map Value.date
  | some (hour, minute, second) =>
    (DateTime.ofParts year month day (Schema.number hour) (Schema.number minute) (Schema.number second)
      (microsecond parts.fraction) parts.offset).map Value.dateTime

def time (text : String) : Except Refusal Value :=
  match Schema.readTime? (Schema.trimmed text.toList) with
  | some parts => (timeOf parts).mapError .calendar
  | none => .error .time

def binary (text : String) : Except Refusal Value :=
  match if text.toList.all (·.toNat < 0x80) then Text.decodeBase64? ⟨0, 0, 0⟩ text.toList else none with
  | some bytes => .ok (.bytes bytes)
  | none => .error .malformed

/-- The value of a scalar with a tag for scalars. -/
def value (tag : Tag) (text : String) : Except Refusal Value :=
  match tag with
  | .null => .ok .null
  | .bool => truth text
  | .int => integer text
  | .float => float text
  | .text => .ok (.text text)
  | .binary => binary text
  | .time => time text
  | _ => .error .malformed

/-- The code points with the letters in lowercase. -/
def lowerCodes (codes : List Nat) : List Nat :=
  codes.map fun code => if Text.isSurrogate code then code else (Char.ofNat code).toLower.toNat

/-- The value of a scalar with surrogates. None of them is in a number, a truth value or a time. -/
def brokenValue (tag : Tag) (codes : List Nat) : Except Refusal Value :=
  match tag with
  | .null => .ok .null
  | .text => .ok (.brokenText codes)
  | .bool => .error (.brokenTruth (lowerCodes codes))
  | .int => .error (.numeral (.brokenInteger 10 codes))
  | .float => .error (.numeral (.brokenReal codes))
  | .time => .error .time
  | _ => .error .malformed

end HalfPrecision.Yaml.Scalar
