import HalfPrecision.Value.Kind

/-! This file defines the nodes of a document and their tags. -/

namespace HalfPrecision.Yaml

/-- What a node stands for. -/
inductive Tag where
  | null
  | bool
  | int
  | float
  | text
  | binary
  | time
  | sequence
  | mapping
  | set
  | orderedMapping
  | pairs
  /-- A key whose value is a mapping to be merged. -/
  | merge
  /-- A key whose value stands for the mapping as a whole. -/
  | value
  | unknown
deriving DecidableEq, Repr

namespace Tag

/-- The start of the names of all known tags. -/
def known : String := "tag:yaml.org,2002:"

/-- The known tags by the ends of their names. -/
def names : List (String × Tag) :=
  [("null", .null), ("bool", .bool), ("int", .int), ("float", .float), ("str", .text), ("binary", .binary),
    ("timestamp", .time), ("seq", .sequence), ("map", .mapping), ("set", .set), ("omap", .orderedMapping),
    ("pairs", .pairs), ("merge", .merge), ("value", .value)]

/-- The tag with a given name. -/
def ofName (name : String) : Tag :=
  ((names.find? fun (ending, _) => known ++ ending == name).map Prod.snd).getD .unknown

end Tag

/-- A node of a document, in which aliases are replaced by what they name, unless they stand within it. -/
inductive Node where
  | scalar (tag : Tag) (text : String)
  /-- A scalar with surrogates among its code points. -/
  | brokenScalar (tag : Tag) (codes : List Nat)
  | sequence (tag : Tag) (items : List Node)
  | mapping (tag : Tag) (entries : List (Node × Node))
  /-- A mapping whose merge key does not name mappings. -/
  | unmergeable
  /-- A collection with a name, under which it holds itself. -/
  | named (name : String) (collection : Node)
  /-- The collection with a name, within itself. -/
  | enclosing (name : String)
  /-- The mark of a collection within itself where it is not followed further. -/
  | ellipsis (kind : Kind)
deriving Inhabited

def Node.tag : Node → Tag
  | scalar tag _ => tag
  | brokenScalar tag _ => tag
  | sequence tag _ => tag
  | mapping tag _ => tag
  | unmergeable => .mapping
  | named _ collection => collection.tag
  | enclosing _ => .unknown
  | ellipsis _ => .unknown

end HalfPrecision.Yaml
