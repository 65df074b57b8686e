import HalfPrecision.Calendar
import HalfPrecision.Decimal
import HalfPrecision.Text.Codes
import HalfPrecision.Value.Kind

/-! This file defines dynamic values, which are the operands of calls and the entries of vector tables. -/

namespace HalfPrecision

/-- A dynamic value. The entries of a map keep their order. -/
inductive Value where
  | null
  | bool (truth : Bool)
  | int (number : Int)
  | float (number : Binary64)
  | text (content : String)
  /-- A text with surrogates among its code points, as no string has them. -/
  | brokenText (codes : List Nat)
  | bytes (content : List UInt8)
  | complex (real imaginary : Binary64)
  | fraction (value : Rat)
  | decimal (number : Decimal)
  | date (day : Date)
  | dateTime (time : DateTime)
  | list (items : List Value)
  | pair (first second : Value)
  | set (items : List Value)
  | map (entries : List (Value × Value))
  /-- A collection of a kind, within itself. -/
  | enclosing (kind : Kind)
deriving Inhabited

namespace Value

/-- The text that code points make. -/
def ofCodes (codes : List Nat) : Value :=
  if codes.any Text.isSurrogate then .brokenText codes else .text (Text.ofCodes codes)

def kind : Value → Kind
  | null => .null
  | bool _ => .bool
  | int _ => .int
  | float _ => .float
  | text _ => .text
  | brokenText _ => .text
  | bytes _ => .bytes
  | complex _ _ => .complex
  | fraction _ => .fraction
  | decimal _ => .decimal
  | date _ => .date
  | dateTime _ => .dateTime
  | list _ => .list
  | pair _ _ => .pair
  | set _ => .set
  | map _ => .map
  | enclosing kind => kind

/-- Whether a value counts as true. Zeros and empty values do not. -/
def isTrue : Value → Bool
  | null => false
  | bool truth => truth
  | int number => number != 0
  | float number => number.toRat? != some 0
  | text content => content != ""
  | brokenText codes => !codes.isEmpty
  | bytes content => !content.isEmpty
  | complex real imaginary => real.toRat? != some 0 || imaginary.toRat? != some 0
  | fraction value => value != 0
  | decimal (.finite _ coefficient _) => coefficient != 0
  | decimal _ => true
  | date _ => true
  | dateTime _ => true
  | list items => !items.isEmpty
  | pair _ _ => true
  | set items => !items.isEmpty
  | map entries => !entries.isEmpty
  | enclosing _ => true

/-- The integer that a value is. Truth values are the integers one and zero. -/
def integer? : Value → Option Int
  | bool truth => some (if truth then 1 else 0)
  | int number => some number
  | _ => none

end Value

end HalfPrecision
