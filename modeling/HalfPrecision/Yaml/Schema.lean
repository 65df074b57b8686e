import HalfPrecision.Yaml.Node

/-! This file defines which plain scalars stand for something else than their text. -/

namespace HalfPrecision.Yaml.Schema

/-- Drops one sign. -/
def dropSign : List Char → List Char
  | '-' :: rest => rest
  | '+' :: rest => rest
  | characters => characters

def isDigitOrUnderscore (character : Char) : Bool := character.isDigit || character == '_'

/-- The spellings of a word in lowercase, capitalized and in uppercase. -/
def spellings (word : String) : List (List Char) :=
  [word.toList, word.capitalize.toList, (word.map Char.toUpper).toList]

def isTruth (text : List Char) : Bool :=
  (["yes", "no", "true", "false", "on", "off"].flatMap spellings).contains text

def isNull (text : List Char) : Bool :=
  text.isEmpty || text == ['~'] || (spellings "null").contains text

/-- Nothing, or the letter of an exponent with its sign and digits. -/
def isExponent : List Char → Bool
  | [] => true
  | letter :: sign :: digits =>
    (letter == 'e' || letter == 'E') && (sign == '-' || sign == '+') && !digits.isEmpty && digits.all Char.isDigit
  | _ => false

/-- The part of a number in base 60 after a colon. -/
def isSixtieth : List Char → Bool
  | [digit] => digit.isDigit
  | [high, low] => high.isDigit && decide (high.toNat < '6'.toNat) && low.isDigit
  | _ => false

/-- Splits a text at colons. -/
def splitColons : List Char → List (List Char)
  | [] => [[]]
  | ':' :: rest => [] :: splitColons rest
  | character :: rest =>
    match splitColons rest with
    | part :: parts => (character :: part) :: parts
    | [] => [[character]]

/-- Whether the parts between colons are a number in base 60, which starts with a digit that `first` admits. -/
def isSexagesimal (first : Char → Bool) (characters : List Char) : Bool :=
  match splitColons characters with
  | (digit :: digits) :: part :: parts =>
    first digit && digits.all isDigitOrUnderscore && (part :: parts).all isSixtieth
  | _ => false

/-- A number with a point, in base 10 or 60, or an infinity, after its sign. -/
def isUnsignedFloat (characters : List Char) : Bool :=
  let (whole, rest) := characters.span (· != '.')
  match rest with
  | [] => false
  | _ :: rest =>
    let places := rest.dropWhile isDigitOrUnderscore
    match whole with
    | [] => (spellings "inf").contains rest
    | digit :: digits =>
      (digit.isDigit && digits.all isDigitOrUnderscore && isExponent places) ||
        (isSexagesimal Char.isDigit whole && places.isEmpty)

/-- A number that starts with a point, or no number. -/
def isPointed : List Char → Bool
  | '.' :: digit :: rest =>
    (digit.isDigit && isExponent (rest.dropWhile isDigitOrUnderscore)) ||
      ["nan".toList, "NaN".toList, "NAN".toList].contains (digit :: rest)
  | _ => false

def isFloat (characters : List Char) : Bool := isPointed characters || isUnsignedFloat (dropSign characters)

def isNonzeroDigit (character : Char) : Bool := character.isDigit && character != '0'

/-- Whether all characters, and at least one, are digits of a base or underscores. -/
def areDigits (base : Nat) (characters : List Char) : Bool :=
  !characters.isEmpty && characters.all fun character =>
    character == '_' ||
      (character.isDigit && decide (character.toNat < '0'.toNat + base)) ||
      (base == 16 && (('a'.toNat ≤ character.toNat && character.toNat ≤ 'f'.toNat) ||
        ('A'.toNat ≤ character.toNat && character.toNat ≤ 'F'.toNat)))

/-- An integer in one of the bases 2, 8, 10, 16 and 60. -/
def isInteger (characters : List Char) : Bool :=
  let unsigned := dropSign characters
  match unsigned with
  | '0' :: 'b' :: digits => areDigits 2 digits
  | '0' :: 'x' :: digits => areDigits 16 digits
  | '0' :: digits => digits.isEmpty || areDigits 8 digits
  | digit :: digits =>
    (isNonzeroDigit digit && digits.all isDigitOrUnderscore) || isSexagesimal isNonzeroDigit unsigned
  | [] => false

/-- The parts of a time that a text spells. -/
structure TimeParts where
  year : List Char
  month : List Char
  day : List Char
  /-- The hour, minute and second. -/
  clock : Option (List Char × List Char × List Char)
  fraction : List Char
  /-- The offset in minutes. -/
  offset : Option Int

/-- Reads one or two digits. -/
def oneOrTwo : List Char → Option (List Char × List Char)
  | first :: second :: rest =>
    if !first.isDigit then none
    else if second.isDigit then some ([first, second], rest)
    else some ([first], second :: rest)
  | [first] => if first.isDigit then some ([first], []) else none
  | [] => none

/-- Reads two digits. -/
def two : List Char → Option (List Char × List Char)
  | first :: second :: rest => if first.isDigit && second.isDigit then some ([first, second], rest) else none
  | _ => none

/-- Drops an expected character. -/
def expect (character : Char) : List Char → Option (List Char)
  | first :: rest => if first = character then some rest else none
  | [] => none

/-- The number that digits spell. -/
def number (digits : List Char) : Nat :=
  digits.foldl (fun value digit => value * 10 + (digit.toNat - '0'.toNat)) 0

/-- Reads the offset at the end of a time. There may be none. -/
def readOffset? (characters : List Char) : Option (Option Int) :=
  if characters.isEmpty then some none
  else
    match characters.dropWhile fun character => character == ' ' || character == '\t' with
    | ['Z'] => some (some 0)
    | sign :: rest =>
      if sign = '-' ∨ sign = '+' then do
        let (hour, rest) ← oneOrTwo rest
        let minute ←
          match rest with
          | [] => some []
          | ':' :: rest => (two rest).bind fun (minute, rest) => if rest.isEmpty then some minute else none
          | _ => none
        let minutes : Int := number hour * 60 + number minute
        return some (if sign = '-' then -minutes else minutes)
      else none
    | [] => none

/-- Drops the mark between a date and a clock time. -/
def dropClockMark? : List Char → Option (List Char)
  | first :: rest =>
    if first = 'T' ∨ first = 't' then some rest
    else if first = ' ' ∨ first = '\t' then
      some (rest.dropWhile fun character => character == ' ' || character == '\t')
    else none
  | [] => none

/-- Reads a date with or without a clock time. -/
def readTime? (characters : List Char) : Option TimeParts := do
  let (century, rest) ← two characters
  let (decade, rest) ← two rest
  let (month, rest) ← oneOrTwo (← expect '-' rest)
  let (day, rest) ← oneOrTwo (← expect '-' rest)
  if rest.isEmpty then return ⟨century ++ decade, month, day, none, [], none⟩
  let (hour, rest) ← oneOrTwo (← dropClockMark? rest)
  let (minute, rest) ← two (← expect ':' rest)
  let (second, rest) ← two (← expect ':' rest)
  let (fraction, rest) :=
    match rest with
    | '.' :: rest => rest.span Char.isDigit
    | rest => ([], rest)
  return ⟨century ++ decade, month, day, some (hour, minute, second), fraction, ← readOffset? rest⟩

/-- A date with all its digits, or a date with a clock time. -/
def isTime (characters : List Char) : Bool :=
  match readTime? characters with
  | some parts => parts.clock.isSome || (parts.month.length == 2 && parts.day.length == 2)
  | none => false

/-- The characters of a text without a line feed at its end, which counts for nothing if there are others. -/
def trimmed (characters : List Char) : List Char :=
  if characters.length ≠ 1 ∧ characters.getLast? = some '\n' then characters.dropLast else characters

/-- The tag of a plain scalar. -/
def tagOf (text : String) : Tag :=
  let characters := trimmed text.toList
  if isTruth characters then .bool
  else if isFloat characters then .float
  else if isInteger characters then .int
  else if characters = ['<', '<'] then .merge
  else if isNull characters then .null
  else if isTime characters then .time
  else if characters = ['='] then .value
  else .text

end HalfPrecision.Yaml.Schema
