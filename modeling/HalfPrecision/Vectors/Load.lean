import HalfPrecision.Value.Text
import HalfPrecision.Vectors.Table

/-!
This file defines how vector tables are loaded from documents, and why a document is not one. The reader of documents is
a parameter, which may give any value or refuse the bytes for any reason.
-/

namespace HalfPrecision.Vectors

/-- Why nothing can be read at a path. -/
inductive PathFault where
  | missing
  /-- A part before the last one is no directory. -/
  | notDirectory
  | directory
  | tooLong
  /-- Another fault, in the words of the system. -/
  | other (message : String)
deriving DecidableEq, Repr

def PathFault.message : PathFault → String
  | .missing => "[Errno 2] No such file or directory"
  | .notDirectory => "[Errno 20] Not a directory"
  | .directory => "[Errno 21] Is a directory"
  | .tooLong => "[Errno 36] File name too long"
  | .other message => message

/-- What is found at a path. -/
inductive FileContent where
  | unreadable (fault : PathFault)
  | bytes (content : List UInt8)

/-- What kind of thing is wrong when a table cannot be loaded. -/
inductive Cause where
  | file
  | document
  | name
  | content
deriving DecidableEq, Repr

/-- Why a reader refuses a document. -/
inductive Refusal where
  /-- A refusal of a kind that a loader reports. -/
  | reported (cause : Cause) (message : String)
  /-- A refusal of another kind, which a loader lets pass. -/
  | unreported (kind message : String)
deriving DecidableEq

/-- Gives the value of the bytes of a document. Of collections that hold themselves, the value is unfolded as deep as a
table is read. -/
abbrev DocumentReader := List UInt8 → Except Refusal Value

/-- Why a table cannot be loaded. -/
inductive LoadError where
  /-- Nothing can be read at a path. -/
  | unreadable (fault : PathFault) (path : String)
  /-- A path that holds the null character, as no path may. -/
  | invalidPath
  | refused (refusal : Refusal)
  | notMapping
  /-- A section that is not known, with the text of its name. -/
  | unknownSection (name : String)
  | sectionNotMapping (name : String)
  /-- A section that is not known, and whose name is too long for a text. -/
  | nameTooLong
deriving DecidableEq

namespace LoadError

def text : LoadError → String
  | .unreadable fault path => fault.message ++ ": " ++ String.ofList (Text.quoted path.toList)
  | .invalidPath => "embedded null byte"
  | .refused (.reported _ message) => message
  | .refused (.unreported _ message) => message
  | .notMapping => "top level is not a mapping"
  | .unknownSection name => String.ofList (Text.quoted ("unknown section " ++ name).toList)
  | .sectionNotMapping name => "section " ++ String.ofList (Text.quoted name.toList) ++ " is not a mapping"
  | .nameTooLong => Fault.textTooLong.message

/-- What is wrong, if it is reported. -/
def cause? : LoadError → Option Cause
  | .unreadable _ _ => some .file
  | .refused (.reported cause _) => some cause
  | .refused (.unreported _ _) => none
  | .unknownSection _ => some .name
  | .invalidPath | .notMapping | .sectionNotMapping _ | .nameTooLong => some .content

/-- The report that a table cannot be loaded. -/
def report (source : String) (error : LoadError) : String :=
  "unable to load vectors from " ++ source ++ ": " ++ error.text

end LoadError

/-- Reads one entry of a table as a section. -/
def readSection (name content : Value) : Except LoadError (String × Cases) :=
  let unknown : Except LoadError (String × Cases) :=
    match name.toText with
    | .ok text => .error (.unknownSection text)
    | .error _ => .error .nameTooLong
  match name with
  | .text known =>
    match Section.ofName? known, content with
    | some _, .map cases => .ok (known, cases)
    | some _, _ => .error (.sectionNotMapping known)
    | none, _ => unknown
  | _ => unknown

/-- Reads a value as a table. The first entry that is not a section is reported. -/
def tableOf (value : Value) : Except LoadError Table :=
  match value with
  | .map entries => entries.mapM fun (name, content) => readSection name content
  | _ => .error .notMapping

/-- Loads a table from what is found at a path. -/
def load (read : DocumentReader) (path : String) (content : FileContent) : Except LoadError Table :=
  if path.toList.contains '\x00' then .error .invalidPath
  else match content with
    | .unreadable fault => .error (.unreadable fault path)
    | .bytes content =>
      match read content with
      | .ok value => tableOf value
      | .error refusal => .error (.refused refusal)

end HalfPrecision.Vectors
