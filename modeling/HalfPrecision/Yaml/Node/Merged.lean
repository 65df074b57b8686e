import HalfPrecision.Yaml.Node

/-! This file defines the merging of mappings into the mappings that name them with a merge key. -/

namespace HalfPrecision.Yaml.Node

/-- Whether the entries of a node with a given tag are read as those of a mapping. -/
def holdsEntries (tag : Tag) : Bool := tag == .mapping || tag == .set

/-- The entries of a mapping that is merged into another. A mapping that is merged into itself adds nothing. -/
def sourceEntries? : Node → Option (List (Node × Node))
  | mapping _ entries => some entries
  | named _ (mapping _ entries) => some entries
  | enclosing _ => some []
  | _ => none

/-- The entries that the value of a merge key adds. Of a sequence, the first mapping comes last. -/
def mergeSource? : Node → Option (List (Node × Node))
  | sequence _ items =>
    (items.mapM sourceEntries?).map fun (sources : List (List (Node × Node))) => sources.reverse.flatten
  | node => sourceEntries? node

/-- A key that stands for the mapping as a whole is read as a text. -/
def plainKey : Node → Node
  | scalar .value text => scalar .text text
  | key => key

/-- The merged entries and the entries of a mapping's own. -/
def mergeEntries? : List (Node × Node) → Option (List (Node × Node) × List (Node × Node))
  | [] => some ([], [])
  | (key, value) :: rest => do
    if key.tag = .merge then
      let source ← mergeSource? value
      let (merged, own) ← mergeEntries? rest
      return (source ++ merged, own)
    else
      let (merged, own) ← mergeEntries? rest
      return (merged, (plainKey key, value) :: own)

/-- Puts the merged entries of a mapping in front of its own. -/
def mergeMapping (tag : Tag) (entries : List (Node × Node)) : Node :=
  if holdsEntries tag then
    match mergeEntries? entries with
    | some (merged, own) => mapping tag (merged ++ own)
    | none => unmergeable
  else mapping tag entries

mutual

/-- Merges all mappings of a node. -/
def merged : Node → Node
  | sequence tag items => sequence tag (mergedItems items)
  | mapping tag entries => mergeMapping tag (mergedEntries entries)
  | named name collection => named name (merged collection)
  | node => node

/-- Merges all mappings of some nodes. -/
def mergedItems : List Node → List Node
  | [] => []
  | item :: rest => merged item :: mergedItems rest

/-- Merges all mappings of some entries. -/
def mergedEntries : List (Node × Node) → List (Node × Node)
  | [] => []
  | (key, value) :: rest => (merged key, merged value) :: mergedEntries rest

end

end HalfPrecision.Yaml.Node
