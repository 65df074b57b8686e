import HalfPrecision.Calendar
import HalfPrecision.Numeral.Integer
import HalfPrecision.Word

/-! This file defines why the bytes of a YAML document are refused, and the messages of the refusals. -/

namespace HalfPrecision.Yaml

/-- Why a document is refused. -/
inductive Refusal where
  /-- The bytes from `first` to `last` of a portion of the document are not UTF-8. -/
  | encoding (byte : UInt8) (first last : Nat) (reason : String)
  /-- The document is against the rules of the notation. -/
  | malformed
  /-- An escape beyond the last code point. -/
  | codePoint
  /-- An escape beyond 31 bits. -/
  | longCodePoint
  | numeral (refusal : Numeral.Refusal)
  | calendar (refusal : CalendarRefusal)
  /-- A number without any character. -/
  | emptyNumber
  /-- A part of a number in base 60 whose weight is beyond the range of binary64. -/
  | weightTooLarge
  /-- A text that is no truth value. -/
  | truth (text : String)
  /-- A text with surrogates where a truth value is asked for. -/
  | brokenTruth (codes : List Nat)
  /-- A text that is no time. -/
  | time
  /-- A mapping where the text of a time is asked for. -/
  | mappingForTime
deriving DecidableEq

/-- The code of a byte. -/
def byteText (byte : UInt8) : String :=
  "0x" ++ String.ofList (padZeros 2 (hexDigits byte.toNat))

def Refusal.message : Refusal → String
  | .encoding byte first last reason =>
    "'utf-8' codec can't decode " ++
      (if first = last then "byte " ++ byteText byte ++ " in position " ++ toString first
      else "bytes in position " ++ toString first ++ "-" ++ toString last) ++ ": " ++ reason
  | .malformed => "the document is malformed"
  | .codePoint => "chr() arg not in range(0x110000)"
  | .longCodePoint => "Python int too large to convert to C int"
  | .numeral refusal => refusal.message
  | .calendar refusal => refusal.message
  | .emptyNumber => "string index out of range"
  | .weightTooLarge => "int too large to convert to float"
  | .truth text => String.ofList (Text.quoted text.toList)
  | .brokenTruth codes => String.ofList (Text.quotedCodes codes)
  | .time => "'NoneType' object has no attribute 'groupdict'"
  | .mappingForTime => "expected string or bytes-like object, got 'list'"

end HalfPrecision.Yaml
