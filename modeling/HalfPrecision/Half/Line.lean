import HalfPrecision.Binary64.Text
import HalfPrecision.Half.Classify
import HalfPrecision.Half.Constants
import HalfPrecision.Half.Convert
import HalfPrecision.Half.HexText

/-! This file defines the line that describes a half: its bits, category, value and hexadecimal text. -/

namespace HalfPrecision.Half

/-- A text filled up with blanks on the right. -/
def padRight (width : Nat) (text : String) : String :=
  text ++ String.ofList (List.replicate (width - text.length) ' ')

/-- A text filled up with blanks on the left. -/
def padLeft (width : Nat) (text : String) : String :=
  String.ofList (List.replicate (width - text.length) ' ') ++ text

/-- The bits, category, value and hexadecimal text of a word. -/
def line (word : Int) : String :=
  hexField size word ++ ": " ++ padRight 9 (category word).name ++ " " ++ padLeft 16 (toBinary64 word).text ++ "  " ++
    hexText word

/-- The sign, exponent and fraction field of a word. -/
def trace (word : Int) : String :=
  "  sign=" ++ (if sign word < 0 then "-" else "+") ++ " exp=" ++ toString (exponent word) ++ " sig=0x" ++
    String.ofList (padZeros 3 (hexDigits (fraction word)))

/-- The line of a word, followed by its fields if they are wanted. -/
def describe (traced : Bool) (word : Int) : String :=
  if traced then line word ++ trace word else line word

end HalfPrecision.Half
