import HalfPrecision.CommandLine.Check
import HalfPrecision.CommandLine.Dump
import HalfPrecision.Vectors.Document
import HalfPrecision.Vectors.Packaged

/-! This file defines the program that describes halves or checks vector tables, as its first argument asks. -/

namespace HalfPrecision.Main

open CommandLine

/-- What an error of the system says about a path. -/
def pathFault : IO.Error → Vectors.PathFault
  | .inappropriateType _ 20 _ => .notDirectory
  | .inappropriateType _ _ _ => .directory
  | .invalidArgument _ 36 _ => .tooLong
  | .noFileOrDirectory _ _ _ => .missing
  | .permissionDenied _ code details => .other ("[Errno " ++ toString code ++ "] " ++ details)
  | error => .other (toString error)

/-- Looks at a path. -/
def readFile (path : String) : IO Vectors.FileContent := do
  try
    return .bytes (← IO.FS.readBinFile path).toList
  catch error =>
    return .unreadable (pathFault error)

/-- Prints what a program prints, and gives its exit code. -/
def print (outcome : Outcome) : IO UInt32 := do
  (← IO.getStdout).putStr outcome.output
  (← IO.getStderr).putStr outcome.errors
  match outcome.ending with
  | .exit code => return UInt32.ofNat code
  | .fault fault =>
    (← IO.getStderr).putStrLn fault.message
    return 1
  | .document error =>
    (← IO.getStderr).putStrLn error.text
    return 1

/-- Runs the check of a table in YAML. -/
def check (arguments : List String) : IO UInt32 := do
  match Check.readSetting arguments with
  | .error outcome => print outcome
  | .ok setting =>
    let content ←
      if setting.path = "" then pure (.bytes Vectors.packagedDocument.toUTF8.toList)
      else readFile (normalizePath setting.path)
    print (Check.runSetting ⟨"the packaged table", fun _ => content, Vectors.readYaml⟩ setting)

end HalfPrecision.Main

def main (arguments : List String) : IO UInt32 := do
  match arguments with
  | "dump" :: rest => HalfPrecision.Main.print (HalfPrecision.CommandLine.Dump.run (rest.map HalfPrecision.Text.codes))
  | "check" :: rest => HalfPrecision.Main.check rest
  | rest => HalfPrecision.Main.check rest
