import HalfPrecision.CommandLine.Outcome
import HalfPrecision.Half.Line
import HalfPrecision.Half.Numeral

/-! This file defines the program that describes halves. It prints nothing unless all its values can be read. -/

namespace HalfPrecision.CommandLine.Dump

def manual : Manual where
  program := "tinyhalf-dump"
  usage := "[-h] [-t] values [values ...]"
  help := "
Prints the decomposition of binary16 values given as hex bit patterns or
decimal floats.

positional arguments:
  values

options:
  -h, --help   show this help message and exit
  -t, --trace  also print sign, exponent and significand fields

Put -- in front of values starting with a minus sign, e.g. tinyhalf-dump --
-inf.
"

/-- The option that asks for the fields of the halves. -/
def traceSwitch : Switch := ⟨["-t", "--trace"], false⟩

def interface : Interface := ⟨[helpSwitch, traceSwitch], true⟩

/-- Reads the values, up to the first one that cannot be read. -/
def readValues : List (List Nat) → Except UsageError (List Int)
  | [] => .ok []
  | argument :: rest =>
    match Half.ofCodes argument with
    | .error _ => .error (.invalidValue argument)
    | .ok word => (readValues rest).map (word :: ·)

/-- What the requests have set so far. -/
structure Setting where
  traced : Bool
  words : Option (List Int)

/-- The lines that describe the words of a setting, whose arguments are read. -/
def finish (setting : Setting) (leftOver : List (List Nat)) : Outcome :=
  match setting.words with
  | none => manual.refuse .missingValues
  | some words =>
    if leftOver.isEmpty then ⟨joinLines (words.map (Half.describe setting.traced)), "", .exit 0⟩
    else manual.refuse (.unrecognized leftOver)

/-- Follows requests in their order. -/
def follow (failure : Option UsageError) (leftOver : List (List Nat)) (setting : Setting) : List Request → Outcome
  | [] =>
    match failure with
    | some error => manual.refuse error
    | none => finish setting leftOver
  | .switch switch _ :: rest =>
    if switch = helpSwitch then manual.explain
    else follow failure leftOver { setting with traced := true } rest
  | .values arguments :: rest =>
    match readValues arguments with
    | .error error => manual.refuse error
    | .ok words => follow failure leftOver { setting with words := some words } rest

/-- Runs the program on arguments that are given by their code points. -/
def run (arguments : List (List Nat)) : Outcome :=
  let requests := interface.read arguments
  follow requests.failure requests.leftOver ⟨false, none⟩ requests.requests

end HalfPrecision.CommandLine.Dump
