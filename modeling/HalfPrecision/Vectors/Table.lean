import HalfPrecision.Value.Entries
import HalfPrecision.Vectors.Section

/-! This file defines vector tables and their runs. A run stops at the first vector that cannot be evaluated. -/

namespace HalfPrecision.Vectors

/-- The vectors of one section, as pairs of a key and the expected value. -/
abbrev Cases := List (Value × Value)

/-- A vector table, by the names of its sections. -/
abbrev Table := List (String × Cases)

/-- One vector. -/
structure Vector where
  sectionName : String
  key : Value
  expected : Value

/-- A vector whose computed value differs from the expected one. -/
structure Mismatch where
  vector : Vector
  computed : Value

namespace Table

/-- Collects a table. Repeated sections and equal keys are merged. -/
def collect (sections : List (String × Cases)) : Table :=
  Value.collectEntries (· == ·)
    (sections.map fun (name, cases) => (name, Value.collectEntries Value.equal cases))

/-- Checks that a value may be a key. -/
def checkKey (key : Value) : Except Fault Unit :=
  if key.isSignaling then .error .signalingKey
  else if key.isKey then .ok ()
  else .error (.notKey key.kind)

/-- Collects a table whose keys may be keys. -/
def ofSections (sections : List (String × Cases)) : Except Fault Table := do
  let _ ← (sections.flatMap Prod.snd).mapM fun entry => checkKey entry.1
  return collect sections

/-- The vectors of a table in their order. -/
def vectors (table : Table) : List Vector :=
  table.flatMap fun (name, cases) => cases.map fun (key, expected) => ⟨name, key, expected⟩

/-- The count of vectors. -/
def size (table : Table) : Nat := table.foldl (fun total (_, cases) => total + cases.length) 0

end Table

/-- The value that the section of a vector computes from its key. -/
def Vector.evaluate (vector : Vector) : Except Fault Value :=
  match Section.ofName? vector.sectionName with
  | some known => known.evaluate vector.key
  | none => .error (.unknownSection vector.sectionName)

/-- The computed value of a vector, and whether it equals the expected one. -/
def Vector.check (vector : Vector) : Except Fault (Value × Bool) := do
  let computed ← vector.evaluate
  return (computed, ← computed.equals vector.expected)

/-- The mismatches among vectors, up to the first one that cannot be evaluated, and its fault. -/
def runVectors : List Vector → List Mismatch × Option Fault
  | [] => ([], none)
  | vector :: rest =>
    match vector.check with
    | .error fault => ([], some fault)
    | .ok (_, true) => runVectors rest
    | .ok (computed, false) =>
      let (mismatches, fault) := runVectors rest
      (⟨vector, computed⟩ :: mismatches, fault)

/-- The mismatches of a table, and the fault that ends its run. -/
def Table.run (table : Table) : List Mismatch × Option Fault := runVectors table.vectors

end HalfPrecision.Vectors
