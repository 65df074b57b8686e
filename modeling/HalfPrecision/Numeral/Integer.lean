import HalfPrecision.Text.Blank
import HalfPrecision.Text.DecimalDigit
import HalfPrecision.Text.Quoted

/-!
This file defines how numerals of integers are read: blanks around, one sign, the mark of the base, and digits of
any script with single underscores between them.
-/

namespace HalfPrecision.Numeral

/-- Why a numeral was refused. -/
inductive Refusal where
  | malformedInteger (base : Nat) (text : String)
  /-- A decimal integer with more than 4300 digits. -/
  | tooManyDigits (count : Nat)
  | malformedReal (text : String)
  /-- A text for an integer that holds surrogates. -/
  | brokenInteger (base : Nat) (codes : List Nat)
  /-- A text for a real number that holds surrogates. -/
  | brokenReal (codes : List Nat)
  | malformedBytes (content : List UInt8)
deriving DecidableEq

/-- The message about a text, in its quoted form, that is no integer of a base. -/
def integerMessage (base : Nat) (quoted : List Char) : String :=
  "invalid literal for int() with base " ++ toString base ++ ": " ++ String.ofList (quoted.take 200)

/-- The message about a text, in its quoted form, that is no real number. -/
def realMessage (quoted : List Char) : String :=
  "could not convert string to float: " ++ String.ofList quoted

def Refusal.message : Refusal → String
  | .malformedInteger base text => integerMessage base (Text.quoted text.toList)
  | .tooManyDigits count =>
    "Exceeds the limit (4300 digits) for integer string conversion: value has " ++ toString count ++
      " digits; use sys.set_int_max_str_digits() to increase the limit"
  | .malformedReal text => realMessage (Text.quoted text.toList)
  | .brokenInteger base codes => integerMessage base (Text.quotedCodes codes)
  | .brokenReal codes => realMessage (Text.quotedCodes codes)
  | .malformedBytes content => realMessage (Text.quotedBytes content)

/-- The largest count of digits that a decimal integer may have. -/
def digitLimit : Nat := 4300

/-- A text without surrounding blanks, in which digits of all scripts are replaced by ASCII digits. -/
def plainDigits (characters : List Char) : List Char :=
  (Text.trimBlanks characters).map fun character =>
    match Text.decimalDigit? character with
    | some digit => Nat.digitChar digit
    | none => character

/-- The value of an ASCII digit or letter, where letters continue after nine. -/
def digitValue? (character : Char) : Option Nat :=
  if character.isDigit then some (character.toNat - '0'.toNat)
  else if character.isLower then some (character.toNat - 'a'.toNat + 10)
  else if character.isUpper then some (character.toNat - 'A'.toNat + 10)
  else none

/-- Reads digits of a base with single underscores between them. `afterDigit` tells whether the character before
was a digit. -/
def readDigits (base : Nat) (afterDigit : Bool) (value : Nat) : List Char → Option Nat
  | [] => if afterDigit then some value else none
  | character :: rest =>
    if afterDigit && character == '_' then readDigits base false value rest
    else match digitValue? character with
      | some digit => if digit < base then readDigits base true (value * base + digit) rest else none
      | none => none

/-- The letter that marks a base. -/
def baseMark? (base : Nat) : Option Char :=
  if base = 16 then some 'x' else if base = 8 then some 'o' else if base = 2 then some 'b' else none

/-- Drops the mark of a base with the underscore that may follow it. -/
def dropBaseMark (base : Nat) : List Char → List Char
  | '0' :: letter :: rest =>
    if baseMark? base = some letter.toLower then
      match rest with
      | '_' :: digits => digits
      | digits => digits
    else '0' :: letter :: rest
  | characters => characters

/-- Splits off one sign. -/
def splitSign : List Char → Bool × List Char
  | '-' :: rest => (true, rest)
  | '+' :: rest => (false, rest)
  | characters => (false, characters)

/-- The count of decimal digits, if digits with underscores between them start a text and are too many. -/
def excessDigits? (characters : List Char) : Option Nat :=
  let run := characters.takeWhile fun character => character.isDigit || character == '_'
  let count := (run.filter Char.isDigit).length
  if digitLimit < count && (readDigits 10 false 0 run).isSome then some count else none

/-- The integer that a numeral of a base denotes. Decimal digits are counted before what follows them is read. -/
def readInteger (base : Nat) (text : String) : Except Refusal Int :=
  let (negative, unsigned) := splitSign (plainDigits text.toList)
  match if base = 10 then excessDigits? unsigned else none with
  | some count => .error (.tooManyDigits count)
  | none =>
    match readDigits base false 0 (dropBaseMark base unsigned) with
    | none => .error (.malformedInteger base text)
    | some value => .ok (if negative then -(value : Int) else value)

end HalfPrecision.Numeral
