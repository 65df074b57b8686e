import HalfPrecision.Yaml.Node.Merged

/-!
This file defines how collections that hold themselves are unfolded. The text of a value stops at a collection that it
is already within. A table is read two levels deep, so each value of these levels is unfolded on its own.
-/

namespace HalfPrecision.Yaml.Node

/-- Collections by their names. -/
abbrev Surroundings := List (String × Node)

mutual

/-- The collections in a node that hold themselves, by their names. -/
def holders : Node → Surroundings
  | named name collection => (name, collection) :: holders collection
  | sequence _ items => itemHolders items
  | mapping _ entries => entryHolders entries
  | _ => []

/-- The collections in some items that hold themselves. -/
def itemHolders : List Node → Surroundings
  | [] => []
  | item :: rest => holders item ++ itemHolders rest

/-- The collections in some entries that hold themselves. -/
def entryHolders : List (Node × Node) → Surroundings
  | [] => []
  | (key, value) :: rest => holders key ++ holders value ++ entryHolders rest

end

/-- The kind of value that the collection of a node is. -/
def collectionKind : Node → Kind
  | mapping tag _ => if tag = .set then .set else .map
  | _ => .list

mutual

/-- Unfolds a node that is within the collections of `path`. Each collection is entered once at most, and at most
`count` of them are entered by their names. -/
def closed (count : Nat) (surroundings : Surroundings) (path : List String) : Node → Node
  | named name collection => closed count surroundings (name :: path) collection
  | enclosing name =>
    match count, surroundings.lookup name with
    | _, none => enclosing name
    | 0, some collection => ellipsis (collectionKind collection)
    | count + 1, some collection =>
      if path.contains name then ellipsis (collectionKind collection)
      else closed count surroundings (name :: path) collection
  | sequence tag items => sequence tag (closedItems count surroundings path items)
  | mapping tag entries => mapping tag (closedEntries count surroundings path entries)
  | node => node
termination_by node => (count, sizeOf node)

/-- Unfolds the items of a sequence. -/
def closedItems (count : Nat) (surroundings : Surroundings) (path : List String) : List Node → List Node
  | [] => []
  | item :: rest => closed count surroundings path item :: closedItems count surroundings path rest
termination_by items => (count, sizeOf items)

/-- Unfolds the entries of a mapping. -/
def closedEntries (count : Nat) (surroundings : Surroundings) (path : List String) :
    List (Node × Node) → List (Node × Node)
  | [] => []
  | (key, value) :: rest =>
    (closed count surroundings path key, closed count surroundings path value) ::
      closedEntries count surroundings path rest
termination_by entries => (count, sizeOf entries)

end

/-- The collection that a node stands for. -/
def followed (surroundings : Surroundings) : Node → Node
  | named _ collection => collection
  | enclosing name => (surroundings.lookup name).getD (enclosing name)
  | node => node

/-- Unfolds the entries of mappings on their own, as many levels deep as given. -/
def unfoldedLevels (surroundings : Surroundings) : Nat → Node → Node
  | 0, node => closed surroundings.length surroundings [] node
  | levels + 1, node =>
    match followed surroundings node with
    | mapping .mapping entries =>
      mapping .mapping (entries.map fun (key, value) =>
        (closed surroundings.length surroundings [] key, unfoldedLevels surroundings levels value))
    | _ => closed surroundings.length surroundings [] node

/-- The node of a table, merged and unfolded. -/
def unfolded (node : Node) : Node :=
  let surroundings := (holders node).map fun (name, collection) => (name, merged collection)
  if surroundings.isEmpty then merged node else unfoldedLevels surroundings 2 (merged node)

end HalfPrecision.Yaml.Node
