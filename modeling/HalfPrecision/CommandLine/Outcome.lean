import HalfPrecision.CommandLine.Arguments
import HalfPrecision.Vectors.Load

/-! This file defines what a program prints and how it ends. -/

namespace HalfPrecision.CommandLine

/-- How a program ends. -/
inductive Ending where
  | exit (code : Nat)
  /-- A vector that cannot be evaluated ends the program. -/
  | fault (fault : Fault)
  /-- A document with a fault that is not reported ends the program. -/
  | document (error : Vectors.LoadError)
deriving DecidableEq

/-- What a program prints, and how it ends. -/
structure Outcome where
  output : String
  errors : String
  ending : Ending
deriving DecidableEq

/-- The texts by which a program explains itself. -/
structure Manual where
  program : String
  usage : String
  help : String

namespace Manual

/-- The line of usage. -/
def usageLine (manual : Manual) : String := "usage: " ++ manual.program ++ " " ++ manual.usage ++ "\n"

/-- Prints the help. -/
def explain (manual : Manual) : Outcome := ⟨manual.usageLine ++ manual.help, "", .exit 0⟩

/-- Refuses the arguments. -/
def refuse (manual : Manual) (error : UsageError) : Outcome :=
  ⟨"", manual.usageLine ++ manual.program ++ ": error: " ++ error.message ++ "\n", .exit 2⟩

end Manual

/-- The option that asks for help. -/
def helpSwitch : Switch := ⟨["-h", "--help"], false⟩

/-- Joins lines, each with its end. -/
def joinLines (lines : List String) : String := String.join (lines.map (· ++ "\n"))

end HalfPrecision.CommandLine
