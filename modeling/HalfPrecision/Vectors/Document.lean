import HalfPrecision.Vectors.Load
import HalfPrecision.Yaml.Document

/-! This file defines the reader of vector tables that are written in YAML, with the kinds of its refusals. -/

namespace HalfPrecision.Vectors

/-- What kind of thing is wrong with a document. Some refusals are of kinds that a loader does not report. -/
def refusalOf (refusal : Yaml.Refusal) : Refusal :=
  match refusal with
  | .malformed => .reported .document refusal.message
  | .truth _ | .brokenTruth _ => .reported .name refusal.message
  | .encoding _ _ _ _ | .codePoint | .numeral _ | .calendar _ => .reported .content refusal.message
  | .emptyNumber => .unreported "index" refusal.message
  | .longCodePoint | .weightTooLarge => .unreported "range" refusal.message
  | .time => .unreported "attribute" refusal.message
  | .mappingForTime => .unreported "type" refusal.message

/-- Reads the bytes of a document in YAML. -/
def readYaml : DocumentReader := fun bytes => (Yaml.read bytes).mapError refusalOf

end HalfPrecision.Vectors
