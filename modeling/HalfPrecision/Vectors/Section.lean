import HalfPrecision.Half.Convert
import HalfPrecision.Half.Integral
import HalfPrecision.Half.HexText
import HalfPrecision.Value.Operand

/-! This file defines the sections of vector tables, and what each section computes from a key. -/

namespace HalfPrecision.Vectors

/-- A section of vector tables. -/
inductive Section where
  /-- Rounds a number to half precision. -/
  | round
  /-- Converts binary32 bits. -/
  | convert
  /-- Writes a half in hexadecimal. -/
  | hex
  | ceil
  | floor
  | trunc
  | rint
  | roundHalfAway
deriving DecidableEq, Repr

namespace Section

/-- All sections. -/
def all : List Section := [.round, .convert, .hex, .ceil, .floor, .trunc, .rint, .roundHalfAway]

/-- The name of a section in tables. -/
def name : Section → String
  | .round => "to_half"
  | .convert => "to_half_raw"
  | .hex => "hex"
  | .ceil => "ceil"
  | .floor => "floor"
  | .trunc => "trunc"
  | .rint => "rint"
  | .roundHalfAway => "round_half_away"

/-- The section with a given name. -/
def ofName? (name : String) : Option Section := all.find? fun candidate => candidate.name == name

theorem ofName?_name (known : Section) : ofName? known.name = some known := by
  cases known <;> decide

/-- A function of the half nearest to a number. -/
def ofRounded (function : Int → Nat) (key : Value) : Except Fault Value :=
  key.toBinary64.map fun number => .int (function (Half.ofBinary64 number))

/-- What a section computes from a key. -/
def evaluate : Section → Value → Except Fault Value
  | .round, key => key.toBinary64.map fun number => .int (Half.ofBinary64 number)
  | .convert, key => key.singleWord.map fun bits => .int (Half.ofSingle bits)
  | .hex, key => key.word.map fun bits => .text (Half.hexText bits)
  | .ceil, key => ofRounded Half.ceil key
  | .floor, key => ofRounded Half.floor key
  | .trunc, key => ofRounded Half.trunc key
  | .rint, key => ofRounded Half.rint key
  | .roundHalfAway, key => ofRounded Half.roundHalfAway key

end Section

end HalfPrecision.Vectors
