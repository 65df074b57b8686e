import HalfPrecision.CommandLine.Outcome
import HalfPrecision.CommandLine.Path

/-!
This file defines the program that runs vector tables. It reports every mismatch and counts the vectors that pass. A
fault of a vector ends the program after the mismatches before it.
-/

namespace HalfPrecision.CommandLine.Check

def manual : Manual where
  program := "tinyhalf-check"
  usage := "[-h] [-v] [--vectors FILE]"
  help := "
Runs the reference vectors against the library.

options:
  -h, --help      show this help message and exit
  -v, --verbose
  --vectors FILE  vector table to run instead of the packaged one
"

/-- The option that asks for more messages. -/
def verboseSwitch : Switch := ⟨["-v", "--verbose"], false⟩

/-- The option that names a table. -/
def vectorsSwitch : Switch := ⟨["--vectors"], true⟩

def interface : Interface := ⟨[helpSwitch, verboseSwitch, vectorsSwitch], false⟩

/-- What the requests have set. An empty path stands for the packaged table. -/
structure Setting where
  verbose : Bool
  path : String

/-- How important a message is. -/
inductive Level where
  | debug
  | info
  | error
deriving DecidableEq

/-- The line of a message. -/
def Level.line : Level → String → String
  | .debug, message => "DEBUG: " ++ message ++ "\n"
  | .info, message => "INFO: " ++ message ++ "\n"
  | .error, message => "ERROR: " ++ message ++ "\n"

/-- Writes an integer in hexadecimal, and another value as usual. -/
def valueText (value : Value) : Except Fault String :=
  match value.integer? with
  | some number => .ok (hexLiteral number)
  | none => value.toText

/-- The report of a mismatch. -/
def mismatchText (mismatch : Vectors.Mismatch) : Except Fault String := do
  let key ← valueText mismatch.vector.key
  let expected ← valueText mismatch.vector.expected
  let computed ← valueText mismatch.computed
  return mismatch.vector.sectionName ++ "(" ++ key ++ "): expected " ++ expected ++ ", got " ++ computed

/-- The lines of reports, up to the first mismatch that cannot be written, and its fault. -/
def mismatchLines : List Vectors.Mismatch → String × Option Fault
  | [] => ("", none)
  | mismatch :: rest =>
    match mismatchText mismatch with
    | .error fault => ("", some fault)
    | .ok text =>
      let (lines, fault) := mismatchLines rest
      (Level.error.line text ++ lines, fault)

/-- The message that a table is loaded. -/
def loadedText (source : String) (table : Vectors.Table) : String :=
  "loaded " ++ toString table.size ++ " vectors in " ++ toString table.length ++ " sections from " ++ source

/-- The message that counts the vectors that pass. -/
def summaryText (total failed : Nat) : String :=
  toString (total - failed) ++ "/" ++ toString total ++ " vectors passed"

/-- Runs a table that is loaded. -/
def runTable (verbose : Bool) (source : String) (table : Vectors.Table) : Outcome :=
  let opening := if verbose then Level.debug.line (loadedText source table) else ""
  let (mismatches, fault) := table.run
  let (lines, unwritten) := mismatchLines mismatches
  match unwritten, fault with
  | some fault, _ => ⟨"", opening ++ lines, .fault fault⟩
  | none, some fault => ⟨"", opening ++ lines, .fault fault⟩
  | none, none =>
    let summary := Level.info.line (summaryText table.size mismatches.length)
    ⟨"", opening ++ lines ++ summary, .exit (if mismatches.isEmpty then 0 else 1)⟩

/-- Runs a table, or reports why it is not loaded. -/
def runLoaded (verbose : Bool) (source : String) (table : Except Vectors.LoadError Vectors.Table) : Outcome :=
  match table with
  | .ok table => runTable verbose source table
  | .error error =>
    if error.cause?.isSome then ⟨"", Level.error.line (error.report source), .exit 2⟩
    else ⟨"", "", .document error⟩

/-- The files that a program may read, the name of the packaged one, and the reader of their documents. -/
structure Files where
  packagedName : String
  content : String → Vectors.FileContent
  read : Vectors.DocumentReader

/-- The name of the file that a setting asks for. -/
def sourceName (files : Files) (setting : Setting) : String :=
  if setting.path = "" then files.packagedName else normalizePath setting.path

/-- The table of a setting, if it can be loaded. -/
def loadedTable (files : Files) (setting : Setting) : Except Vectors.LoadError Vectors.Table :=
  Vectors.load files.read (sourceName files setting) (files.content (sourceName files setting))

/-- Runs the table that a setting names. -/
def runSetting (files : Files) (setting : Setting) : Outcome :=
  runLoaded setting.verbose (sourceName files setting) (loadedTable files setting)

/-- Follows requests in their order. An argument of two dashes counts as none. -/
def follow (failure : Option UsageError) (leftOver : List (List Nat)) (setting : Setting) :
    List Request → Except Outcome Setting
  | [] =>
    match failure with
    | some error => .error (manual.refuse error)
    | none => if leftOver.isEmpty then .ok setting else .error (manual.refuse (.unrecognized leftOver))
  | .switch switch argument :: rest =>
    if switch = helpSwitch then .error manual.explain
    else if switch = vectorsSwitch then
      let path := Text.ofCodes (argument.getD [])
      follow failure leftOver { setting with path := if path = "--" then "" else path } rest
    else follow failure leftOver { setting with verbose := true } rest
  | .values _ :: rest => follow failure leftOver setting rest

/-- The table that the arguments ask for, or what is printed instead of running it. -/
def readSetting (arguments : List String) : Except Outcome Setting :=
  let requests := interface.read (arguments.map Text.codes)
  follow requests.failure requests.leftOver ⟨false, ""⟩ requests.requests

/-- Runs the program. -/
def run (files : Files) (arguments : List String) : Outcome :=
  match readSetting arguments with
  | .ok setting => runSetting files setting
  | .error outcome => outcome

end HalfPrecision.CommandLine.Check
