/-! This file defines the tokens of the YAML notation. -/

namespace HalfPrecision.Yaml

/-- A token. Blocks start and end where the indentation changes. -/
inductive Token where
  /-- A directive with the major number of the version. -/
  | version (major : Nat)
  /-- A directive that gives a handle the start of its tags. -/
  | tagHandle (handle start : String)
  | otherDirective
  | documentStart
  | documentEnd
  | streamEnd
  | blockSequenceStart
  | blockMappingStart
  | blockEnd
  | flowSequenceStart
  | flowSequenceEnd
  | flowMappingStart
  | flowMappingEnd
  | flowEntry
  | blockEntry
  | key
  | value
  | alias (name : String)
  | anchor (name : String)
  | tag (handle : Option String) (suffix : String)
  | scalar (plain : Bool) (text : String)
  /-- A scalar with surrogates among its code points. -/
  | brokenScalar (codes : List Nat)
deriving DecidableEq, Repr

end HalfPrecision.Yaml
