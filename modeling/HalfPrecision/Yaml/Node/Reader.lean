import HalfPrecision.Yaml.Refusal
import HalfPrecision.Yaml.Schema
import HalfPrecision.Yaml.Token

/-! This file defines how the tokens of a document are read as a node. -/

namespace HalfPrecision.Yaml

/-- The tokens that are left, and the names in use. -/
structure Reader where
  tokens : List Token
  /-- The refusal that ends the tokens early. -/
  failure : Option Refusal
  /-- The starts of the tags with a handle. -/
  handles : List (String × String)
  /-- The nodes that are named. A node that is not complete has no value yet. -/
  anchors : List (String × Option Node)
  /-- The names of nodes that hold themselves. -/
  holders : List String

/-- An action on a reader. -/
abbrev Read := StateT Reader (Except Refusal)

namespace Reader

def malformed {Result : Type} : Read Result := throw .malformed

/-- The next token. -/
def peek : Read Token := do
  let reader ← get
  match reader.tokens with
  | token :: _ => return token
  | [] => throw (reader.failure.getD .malformed)

/-- Drops the next token. -/
def advance : Read Unit := modify fun reader => { reader with tokens := reader.tokens.drop 1 }

/-- Drops the next token if it is the given one. -/
def skip (expected : Token) : Read Bool := do
  if (← peek) = expected then
    advance
    return true
  return false

/-- The handles that need no directive. -/
def defaultHandles : List (String × String) := [("!", "!"), ("!!", Tag.known)]

/-- The properties of a node. -/
structure Properties where
  anchor : Option String
  tag : Option String

/-- The name of a tag. -/
def tagName (handle : Option String) (suffix : String) : Read String := do
  match handle with
  | none => return suffix
  | some handle =>
    match (← get).handles.lookup handle with
    | some start => return start ++ suffix
    | none => malformed

/-- Reads an anchor, if there is one. -/
def readAnchor : Read (Option String) := do
  match ← peek with
  | .anchor name =>
    advance
    return some name
  | _ => return none

/-- Reads a tag, if there is one. -/
def readTag : Read (Option (Option String × String)) := do
  match ← peek with
  | .tag handle suffix =>
    advance
    return some (handle, suffix)
  | _ => return none

/-- Reads an anchor and a tag in any order. -/
def readProperties : Read Properties := do
  let before ← readAnchor
  let tag ← readTag
  let anchor ← if before.isNone && tag.isSome then readAnchor else pure before
  match tag with
  | none => return ⟨anchor, none⟩
  | some (handle, suffix) => return ⟨anchor, some (← tagName handle suffix)⟩

/-- The tag of a collection. -/
def collectionTag (properties : Properties) (usual : Tag) : Tag :=
  match properties.tag with
  | some name => if name = "!" then usual else Tag.ofName name
  | none => usual

/-- A scalar with its tag. -/
def scalarNode (properties : Properties) (plain : Bool) (text : String) : Node :=
  match properties.tag with
  | some name => .scalar (if name = "!" then Schema.tagOf text else Tag.ofName name) text
  | none => .scalar (if plain then Schema.tagOf text else .text) text

/-- A scalar with surrogates and its tag. -/
def brokenNode (properties : Properties) (codes : List Nat) : Node :=
  match properties.tag with
  | some name => .brokenScalar (if name = "!" then .text else Tag.ofName name) codes
  | none => .brokenScalar .text codes

/-- The scalar that stands where nothing is written. -/
def emptyNode : Node := .scalar .null ""

/-- Gives a name to a node that starts here. No name may be given twice. -/
def declare (anchor : Option String) : Read Unit := do
  match anchor with
  | none => return
  | some name =>
    if ((← get).anchors.lookup name).isSome then malformed
    modify fun reader => { reader with anchors := (name, none) :: reader.anchors }

/-- Gives a named node its value. -/
def define (anchor : Option String) (node : Node) : Read Node := do
  match anchor with
  | none => return node
  | some name =>
    let node := if (← get).holders.contains name then .named name node else node
    modify fun reader => { reader with anchors := (name, some node) :: reader.anchors }
    return node

/-- The node that an alias names. -/
def named (name : String) : Read Node := do
  match (← get).anchors.lookup name with
  | some (some node) => return node
  | some none =>
    modify fun reader => { reader with holders := name :: reader.holders }
    return .enclosing name
  | none => malformed

/-- Whether the next token is among some. -/
def atAny (tokens : List Token) : Read Bool := return tokens.contains (← peek)

mutual

/-- Reads a node. Blocks, and block sequences without indentation of their own, may be excluded. -/
def readNode (blocks unindented : Bool) : Nat → Read Node
  | 0 => malformed
  | fuel + 1 => do
    match ← peek with
    | .alias name =>
      advance
      named name
    | _ =>
      let properties ← readProperties
      declare properties.anchor
      define properties.anchor (← readContent blocks unindented properties fuel)

/-- Reads a node after its properties. -/
def readContent (blocks unindented : Bool) (properties : Properties) : Nat → Read Node
  | 0 => malformed
  | fuel + 1 => do
    match ← peek, blocks, unindented with
    | .blockEntry, _, true => return .sequence (collectionTag properties .sequence) (← readUnindented fuel)
    | .scalar plain text, _, _ =>
      advance
      return scalarNode properties plain text
    | .brokenScalar codes, _, _ =>
      advance
      return brokenNode properties codes
    | .flowSequenceStart, _, _ =>
      advance
      return .sequence (collectionTag properties .sequence) (← readFlowItems true fuel)
    | .flowMappingStart, _, _ =>
      advance
      return .mapping (collectionTag properties .mapping) (← readFlowEntries true fuel)
    | .blockSequenceStart, true, _ =>
      advance
      return .sequence (collectionTag properties .sequence) (← readBlockItems fuel)
    | .blockMappingStart, true, _ =>
      advance
      return .mapping (collectionTag properties .mapping) (← readBlockEntries fuel)
    | _, _, _ =>
      if properties.anchor.isSome || properties.tag.isSome then return scalarNode properties true "" else malformed

/-- Reads the items of a block sequence. -/
def readBlockItems : Nat → Read (List Node)
  | 0 => malformed
  | fuel + 1 => do
    if ← skip .blockEntry then
      let item ← if ← atAny [.blockEntry, .blockEnd] then pure emptyNode else readNode true false fuel
      return item :: (← readBlockItems fuel)
    if ← skip .blockEnd then return [] else malformed

/-- Reads the items of a block sequence that is indented like the mapping around it. -/
def readUnindented : Nat → Read (List Node)
  | 0 => malformed
  | fuel + 1 => do
    if ← skip .blockEntry then
      let item ←
        if ← atAny [.blockEntry, .key, .value, .blockEnd] then pure emptyNode else readNode true false fuel
      return item :: (← readUnindented fuel)
    return []

/-- Reads a key or value of a block mapping after its mark. -/
def readBlockPart : Nat → Read Node
  | 0 => malformed
  | fuel + 1 => do
    if ← atAny [.key, .value, .blockEnd] then return emptyNode else readNode true true fuel

/-- Reads the entries of a block mapping. -/
def readBlockEntries : Nat → Read (List (Node × Node))
  | 0 => malformed
  | fuel + 1 => do
    if ← skip .key then
      let key ← readBlockPart fuel
      let value ← if ← skip .value then readBlockPart fuel else pure emptyNode
      return (key, value) :: (← readBlockEntries fuel)
    if ← skip .blockEnd then return [] else malformed

/-- Reads a key or value in a flow collection after its mark. -/
def readFlowPart (ends : List Token) : Nat → Read Node
  | 0 => malformed
  | fuel + 1 => do
    if ← atAny ends then return emptyNode else readNode false false fuel

/-- Reads an entry in a flow collection after the mark of its key. -/
def readFlowEntry (finish : Token) : Nat → Read (Node × Node)
  | 0 => malformed
  | fuel + 1 => do
    let key ← readFlowPart [.value, .flowEntry, finish] fuel
    let value ← if ← skip .value then readFlowPart [.flowEntry, finish] fuel else pure emptyNode
    return (key, value)

/-- Reads the items of a flow sequence. An entry in it is a mapping of its own. -/
def readFlowItems (first : Bool) : Nat → Read (List Node)
  | 0 => malformed
  | fuel + 1 => do
    if ← skip .flowSequenceEnd then return []
    if !first then
      if !(← skip .flowEntry) then malformed
    if ← skip .key then
      let entry ← readFlowEntry .flowSequenceEnd fuel
      return .mapping .mapping [entry] :: (← readFlowItems false fuel)
    if ← skip .flowSequenceEnd then return []
    let item ← readNode false false fuel
    return item :: (← readFlowItems false fuel)

/-- Reads the entries of a flow mapping. -/
def readFlowEntries (first : Bool) : Nat → Read (List (Node × Node))
  | 0 => malformed
  | fuel + 1 => do
    if ← skip .flowMappingEnd then return []
    if !first then
      if !(← skip .flowEntry) then malformed
    if ← skip .key then
      let entry ← readFlowEntry .flowMappingEnd fuel
      return entry :: (← readFlowEntries false fuel)
    if ← skip .flowMappingEnd then return []
    let key ← readNode false false fuel
    return (key, emptyNode) :: (← readFlowEntries false fuel)

end

/-- Reads the directives before a document. The second part tells whether there was a version. -/
def readDirectives (versioned : Bool) : Nat → Read Unit
  | 0 => malformed
  | fuel + 1 => do
    match ← peek with
    | .version major =>
      advance
      if versioned || major != 1 then malformed
      readDirectives true fuel
    | .tagHandle handle start =>
      advance
      if ((← get).handles.lookup handle).isSome then malformed
      modify fun reader => { reader with handles := (handle, start) :: reader.handles }
      readDirectives versioned fuel
    | .otherDirective =>
      advance
      readDirectives versioned fuel
    | _ => modify fun reader => { reader with handles := reader.handles ++ defaultHandles }

/-- Skips the ends of a document. -/
def skipEnds : Nat → Read Unit
  | 0 => malformed
  | fuel + 1 => do
    if ← skip .documentEnd then skipEnds fuel

/-- Whether a document starts with directives or with its mark, or is missing. -/
def startsMarked (token : Token) : Bool :=
  match token with
  | .version _ | .tagHandle _ _ | .otherDirective | .documentStart | .streamEnd => true
  | _ => false

/-- Reads the content of a document after its mark. -/
def readMarked (fuel : Nat) : Read Node := do
  let next ← peek
  if startsMarked next || next = .documentEnd then return emptyNode else readNode true false fuel

/-- Reads the only document, if there is one. -/
def readDocument (fuel : Nat) : Read (Option Node) := do
  let first ← peek
  if first = .streamEnd then return none
  let node ←
    if startsMarked first then do
      readDirectives false fuel
      if !(← skip .documentStart) then malformed
      readMarked fuel
    else do
      modify fun reader => { reader with handles := defaultHandles }
      readNode true false fuel
  skipEnds fuel
  if (← peek) = .streamEnd then return some node else malformed

end Reader

/-- The node of a document, if it is not empty. -/
def Node.ofTokens (tokens : List Token) (failure : Option Refusal) : Except Refusal (Option Node) :=
  (Reader.readDocument (4 * tokens.length + 8)).run' ⟨tokens, failure, [], [], []⟩

end HalfPrecision.Yaml
