import HalfPrecision.Text.Printable

/-!
This file defines quoted texts. Single quotes are used unless the text holds a single quote and no double quote.
The quote, the backslash and every character that is not printable are escaped.
-/

namespace HalfPrecision.Text

/-- The lowest `count` hexadecimal digits of a number. -/
def hexDigitsOf (count number : Nat) : List Char :=
  (List.range count).reverse.map fun place => Nat.digitChar (number >>> (4 * place) % 16)

/-- The form of a character between quotes. -/
def escapeChar (quote character : Char) : List Char :=
  if character = '\\' then ['\\', '\\']
  else if character = quote then ['\\', quote]
  else if character = '\n' then ['\\', 'n']
  else if character = '\r' then ['\\', 'r']
  else if character = '\t' then ['\\', 't']
  else if isPrintable character then [character]
  else if character.toNat < 0x100 then '\\' :: 'x' :: hexDigitsOf 2 character.toNat
  else if character.toNat < 0x10000 then '\\' :: 'u' :: hexDigitsOf 4 character.toNat
  else '\\' :: 'U' :: hexDigitsOf 8 character.toNat

/-- The quote that encloses a text. -/
def quoteFor (characters : List Char) : Char :=
  if characters.contains '\'' && !characters.contains '"' then '"' else '\''

/-- The quoted form of a text. -/
def quoted (characters : List Char) : List Char :=
  let quote := quoteFor characters
  quote :: characters.flatMap (escapeChar quote) ++ [quote]

/-- Whether a code point is one half of a pair in UTF-16, which is no character. -/
def isSurrogate (code : Nat) : Bool := decide (0xd800 ≤ code) && decide (code < 0xe000)

/-- The form of a code point between quotes. -/
def escapeCode (quote : Char) (code : Nat) : List Char :=
  if isSurrogate code then '\\' :: 'u' :: hexDigitsOf 4 code else escapeChar quote (Char.ofNat code)

/-- The quoted form of code points. -/
def quotedCodes (codes : List Nat) : List Char :=
  let quote := quoteFor (codes.map Char.ofNat)
  quote :: codes.flatMap (escapeCode quote) ++ [quote]

/-- The form of a byte between quotes. -/
def escapeByte (quote : Char) (byte : UInt8) : List Char :=
  if byte.toNat < 0x80 then escapeChar quote (Char.ofNat byte.toNat)
  else '\\' :: 'x' :: hexDigitsOf 2 byte.toNat

/-- The quoted form of a byte string. -/
def quotedBytes (bytes : List UInt8) : List Char :=
  let quote := quoteFor (bytes.map fun byte => Char.ofNat byte.toNat)
  'b' :: quote :: bytes.flatMap (escapeByte quote) ++ [quote]

end HalfPrecision.Text
