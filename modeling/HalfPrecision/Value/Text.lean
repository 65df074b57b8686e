import HalfPrecision.Binary64.Text
import HalfPrecision.Fault
import HalfPrecision.Value

/-! This file defines the texts of values. Integers with more than 4300 digits have none. -/

namespace HalfPrecision.Value

/-- The text of an integer, if it is not too long. -/
def integerText (number : Int) : Except Fault (List Char) :=
  if Numeral.digitLimit < decimalLength number.natAbs then .error .textTooLong else .ok (toString number).toList

/-- The text of a complex number. A positive zero is left out as the real part. -/
def complexText (real imaginary : Binary64) : List Char :=
  let sign := if imaginary.negative && !imaginary.isNaN then [] else ['+']
  if real = Binary64.zero false then imaginary.characters false ++ ['j']
  else '(' :: real.characters false ++ sign ++ imaginary.characters false ++ ['j', ')']

/-- The texts of items between an opening and a closing text. -/
def enclosed (opening closing : List Char) (items : List (List Char)) : List Char :=
  opening ++ [',', ' '].intercalate items ++ closing

mutual

/-- The characters of a value's text. -/
def characters : Value → Except Fault (List Char)
  | null => .ok "None".toList
  | bool truth => .ok (if truth then "True" else "False").toList
  | int number => integerText number
  | float number => .ok (number.characters true)
  | text content => .ok (Text.quoted content.toList)
  | brokenText codes => .ok (Text.quotedCodes codes)
  | bytes content => .ok (Text.quotedBytes content)
  | complex real imaginary => .ok (complexText real imaginary)
  | fraction value => do
    return enclosed "Fraction(".toList [')'] [← integerText value.num, ← integerText value.den]
  | decimal number => .ok ("Decimal('" ++ number.text ++ "')").toList
  | date day => .ok day.text.toList
  | dateTime time => .ok time.text.toList
  | list items => do return enclosed ['['] [']'] (← itemTexts items)
  | pair first second => do return enclosed ['('] [')'] [← characters first, ← characters second]
  | set [] => .ok "set()".toList
  | set items => do return enclosed ['{'] ['}'] (← itemTexts items)
  | map entries => do return enclosed ['{'] ['}'] (← entryTexts entries)
  | enclosing kind => .ok (if kind = .map then "{...}" else "[...]").toList

/-- The texts of the items of a collection. -/
def itemTexts : List Value → Except Fault (List (List Char))
  | [] => .ok []
  | item :: rest => do return (← characters item) :: (← itemTexts rest)

/-- The texts of the entries of a map. -/
def entryTexts : List (Value × Value) → Except Fault (List (List Char))
  | [] => .ok []
  | (key, value) :: rest => do
    return ((← characters key) ++ ':' :: ' ' :: (← characters value)) :: (← entryTexts rest)

end

/-- The text of a value. -/
def toText (value : Value) : Except Fault String := return String.ofList (← value.characters)

end HalfPrecision.Value
