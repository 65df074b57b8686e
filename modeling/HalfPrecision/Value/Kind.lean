/-! This file defines the kinds of dynamic values and the names by which messages call them. -/

namespace HalfPrecision

/-- The kind of a dynamic value. -/
inductive Kind where
  | null
  | bool
  | int
  | float
  | text
  | bytes
  | complex
  | fraction
  | decimal
  | date
  | dateTime
  | list
  | pair
  | set
  | map
deriving DecidableEq, Repr

namespace Kind

/-- The short name of a kind. -/
def name : Kind → String
  | .null => "NoneType"
  | .bool => "bool"
  | .int => "int"
  | .float => "float"
  | .text => "str"
  | .bytes => "bytes"
  | .complex => "complex"
  | .fraction => "Fraction"
  | .decimal => "Decimal"
  | .date => "date"
  | .dateTime => "datetime"
  | .list => "list"
  | .pair => "tuple"
  | .set => "set"
  | .map => "dict"

/-- The name of a kind in the messages of operators, which qualify decimals and dates. -/
def operandName : Kind → String
  | .decimal => "decimal.Decimal"
  | .date => "datetime.date"
  | .dateTime => "datetime.datetime"
  | kind => kind.name

end Kind

end HalfPrecision
