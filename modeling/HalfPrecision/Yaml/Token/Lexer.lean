import HalfPrecision.Yaml.Token.Mark

/-!
This file defines how the tokens of a document are found. A scalar or a flow collection may turn out to be a key when
a colon follows on the same line, and the token of the key is then put in front of it.
-/

namespace HalfPrecision.Yaml

/-- A token that may turn out to start a key. -/
structure Candidate where
  /-- The count of tokens before it. -/
  position : Nat
  /-- Whether nothing but a key may stand there. -/
  required : Bool
  place : Glyph

/-- The tokens that are found, and what is known about the rest. -/
structure Lexer where
  rest : List Glyph
  /-- The count of flow collections around. -/
  depth : Nat
  indent : Int
  /-- The indentations of the blocks around. -/
  outer : List Int
  keyAllowed : Bool
  candidates : List (Nat × Candidate)
  count : Nat
  /-- The tokens, the last one first. -/
  emitted : List Token

namespace Lexer

def start (glyphs : List Glyph) : Lexer :=
  { rest := glyphs, depth := 0, indent := -1, outer := [], keyAllowed := true, candidates := [], count := 0,
    emitted := [] }

/-- The place of the first character. -/
def place (lexer : Lexer) : Glyph :=
  match lexer.rest with
  | glyph :: _ => glyph
  | [] => ⟨endMark, 0, 0, 0⟩

def column (lexer : Lexer) : Int := lexer.place.column

/-- Whether the rest is in a flow collection. -/
def inFlow (lexer : Lexer) : Bool := lexer.depth != 0

def emit (token : Token) (lexer : Lexer) : Lexer :=
  { lexer with emitted := token :: lexer.emitted, count := lexer.count + 1 }

/-- Skips some characters. -/
def skip (count : Nat) (lexer : Lexer) : Lexer :=
  { lexer with rest := lexer.rest.drop count }

/-- Puts a token behind the first `position` tokens. -/
def insert (position : Nat) (token : Token) (lexer : Lexer) : Lexer :=
  let later := lexer.count - position
  { lexer with
    emitted := lexer.emitted.take later ++ token :: lexer.emitted.drop later
    count := lexer.count + 1 }

/-- The most characters that a key on one line may have. -/
def longestKey : Nat := 1024

/-- Drops the candidates that are on an earlier line or too far back. -/
def dropStale (lexer : Lexer) : Except Refusal Lexer :=
  let stale := fun (candidate : Candidate) =>
    candidate.place.line != lexer.place.line || decide (longestKey < lexer.place.index - candidate.place.index)
  if lexer.candidates.any fun (_, candidate) => candidate.required && stale candidate then .error .malformed
  else .ok { lexer with candidates := lexer.candidates.filter fun (_, candidate) => !stale candidate }

/-- Drops the candidate in the innermost flow collection. -/
def dropCandidate (lexer : Lexer) : Except Refusal Lexer :=
  match lexer.candidates.lookup lexer.depth with
  | none => .ok lexer
  | some candidate =>
    if candidate.required then .error .malformed
    else .ok { lexer with candidates := lexer.candidates.filter fun (depth, _) => depth != lexer.depth }

/-- Notes that the next token may start a key. -/
def saveCandidate (lexer : Lexer) : Except Refusal Lexer := do
  if !lexer.keyAllowed then return lexer
  let required := !lexer.inFlow && decide (lexer.indent = lexer.column)
  let lexer ← lexer.dropCandidate
  return { lexer with candidates := (lexer.depth, ⟨lexer.count, required, lexer.place⟩) :: lexer.candidates }

/-- The indentation that is left after blocks further right than a column end, and the count of these. -/
def closedBlocks (column indent : Int) : List Int → (Int × List Int) × Nat
  | [] => ((indent, []), 0)
  | around :: outer =>
    if column < indent then
      let (left, count) := closedBlocks column around outer
      (left, count + 1)
    else ((indent, around :: outer), 0)

/-- Ends the blocks that are indented further than a column. -/
def closeBlocks (column : Int) (lexer : Lexer) : Lexer :=
  if lexer.inFlow then lexer
  else
    let ((indent, outer), count) := closedBlocks column lexer.indent lexer.outer
    { lexer with
      indent := indent
      outer := outer
      emitted := List.replicate count .blockEnd ++ lexer.emitted
      count := lexer.count + count }

/-- Starts a block at a column, behind the first `position` tokens, unless the block is there already. -/
def openBlock (token : Token) (position : Nat) (column : Int) (lexer : Lexer) : Lexer :=
  if lexer.indent < column then
    { lexer.insert position token with indent := column, outer := lexer.indent :: lexer.outer }
  else lexer

/-- Skips spaces, comments and line ends. Keys are allowed again on a new line. -/
def skipSpaces : Nat → Lexer → Lexer
  | 0, lexer => lexer
  | fuel + 1, lexer =>
    let rest := dropGlyphs (· == ' ') lexer.rest
    let rest := if current rest == '#' then dropGlyphs (fun character => !isBreakOrEnd character) rest else rest
    if isBreak (current rest) then
      skipSpaces fuel { lexer with rest := rest.drop 1, keyAllowed := lexer.keyAllowed || !lexer.inFlow }
    else { lexer with rest := rest }

/-- Skips everything before the next token. -/
def skipToToken (lexer : Lexer) : Lexer :=
  let lexer := if lexer.place.index == 0 && current lexer.rest == byteOrderMark then lexer.skip 1 else lexer
  skipSpaces lexer.rest.length lexer

/-- Ends all blocks, before a directive or a boundary of a document. -/
def closeAll (lexer : Lexer) : Except Refusal Lexer := do
  let lexer ← (lexer.closeBlocks (-1)).dropCandidate
  return { lexer with keyAllowed := false }

def readDirective (lexer : Lexer) : Except Refusal Lexer := do
  let lexer ← lexer.closeAll
  let (token, rest) ← Mark.directive (lexer.rest.drop 1)
  return { lexer.emit token with rest := rest }

def readBoundary (token : Token) (lexer : Lexer) : Except Refusal Lexer := do
  return ((← lexer.closeAll).emit token).skip 3

def openFlow (token : Token) (lexer : Lexer) : Except Refusal Lexer := do
  let lexer ← lexer.saveCandidate
  return { (lexer.emit token).skip 1 with depth := lexer.depth + 1, keyAllowed := true }

def closeFlow (token : Token) (lexer : Lexer) : Except Refusal Lexer := do
  let lexer ← lexer.dropCandidate
  return { (lexer.emit token).skip 1 with depth := lexer.depth - 1, keyAllowed := false }

def readFlowEntry (lexer : Lexer) : Except Refusal Lexer := do
  let lexer ← lexer.dropCandidate
  return { (lexer.emit .flowEntry).skip 1 with keyAllowed := true }

/-- Starts a block at the first character, if blocks may start here. -/
def openBlockHere (token : Token) (lexer : Lexer) : Except Refusal Lexer :=
  if lexer.inFlow then .ok lexer
  else if !lexer.keyAllowed then .error .malformed
  else .ok (lexer.openBlock token lexer.count lexer.column)

def readBlockEntry (lexer : Lexer) : Except Refusal Lexer := do
  let lexer ← (← lexer.openBlockHere .blockSequenceStart).dropCandidate
  return { (lexer.emit .blockEntry).skip 1 with keyAllowed := true }

def readKey (lexer : Lexer) : Except Refusal Lexer := do
  let lexer ← (← lexer.openBlockHere .blockMappingStart).dropCandidate
  return { (lexer.emit .key).skip 1 with keyAllowed := !lexer.inFlow }

/-- Reads the mark of a value. The candidate before it becomes the key. -/
def readValue (lexer : Lexer) : Except Refusal Lexer := do
  match lexer.candidates.lookup lexer.depth with
  | some candidate =>
    let lexer := { lexer with candidates := lexer.candidates.filter fun (depth, _) => depth != lexer.depth }
    let lexer := lexer.insert candidate.position .key
    let lexer :=
      if lexer.inFlow then lexer
      else lexer.openBlock .blockMappingStart candidate.position candidate.place.column
    return { (lexer.emit .value).skip 1 with keyAllowed := false }
  | none =>
    let lexer ← (← lexer.openBlockHere .blockMappingStart).dropCandidate
    return { (lexer.emit .value).skip 1 with keyAllowed := !lexer.inFlow }

/-- Reads a token that may start a key. -/
def readCandidate (read : List Glyph → Except Refusal (Token × List Glyph)) (lexer : Lexer) : Except Refusal Lexer := do
  let lexer ← lexer.saveCandidate
  let (token, rest) ← read lexer.rest
  return { lexer.emit token with rest := rest, keyAllowed := false }

def readAnchor (token : String → Token) (lexer : Lexer) : Except Refusal Lexer :=
  lexer.readCandidate fun glyphs => do
    let (name, rest) ← Mark.anchorName (glyphs.drop 1)
    return (token name, rest)

/-- The token of a quoted scalar. -/
def quotedToken (codes : List Nat) : Token :=
  if codes.any Text.isSurrogate then .brokenScalar codes else .scalar false (String.ofList (codes.map Char.ofNat))

def readQuoted (lexer : Lexer) : Except Refusal Lexer :=
  lexer.readCandidate fun glyphs => do
    let (codes, rest) ← Scalar.quoted glyphs
    return (quotedToken codes, rest)

def readBlockScalar (foldedStyle : Bool) (lexer : Lexer) : Except Refusal Lexer := do
  let lexer ← lexer.dropCandidate
  let (text, rest) ← Scalar.block foldedStyle lexer.indent (lexer.rest.drop 1)
  return { lexer.emit (.scalar false text) with rest := rest, keyAllowed := true }

def readPlain (lexer : Lexer) : Except Refusal Lexer := do
  let lexer ← lexer.saveCandidate
  let ((text, endsLine), rest) := Scalar.plain lexer.inFlow (lexer.indent + 1) lexer.rest
  return { lexer.emit (.scalar true text) with rest := rest, keyAllowed := endsLine }

/-- The characters that start no plain scalar, at least when a blank follows. -/
def isIndicator (character : Char) : Bool :=
  ['-', '?', ':', ',', '[', ']', '{', '}', '#', '&', '*', '!', '|', '>', '\'', '"', '%', '@', '\x60'].contains character

/-- Whether a plain scalar starts here. -/
def startsPlain (lexer : Lexer) : Bool :=
  let first := current lexer.rest
  !(isBlankOrEnd first || isIndicator first) ||
    (!isBlankOrEnd (peek 1 lexer.rest) && (first == '-' || (!lexer.inFlow && (first == '?' || first == ':'))))

/-- Reads the next token, which is not the end. -/
def readToken (lexer : Lexer) : Except Refusal Lexer :=
  let first := current lexer.rest
  let apart := isBlankOrEnd (peek 1 lexer.rest)
  let atLineStart := lexer.place.column == 0
  if first == '%' && atLineStart then lexer.readDirective
  else if atLineStart && atBoundary '-' lexer.rest then lexer.readBoundary .documentStart
  else if atLineStart && atBoundary '.' lexer.rest then lexer.readBoundary .documentEnd
  else if first == '[' then lexer.openFlow .flowSequenceStart
  else if first == '{' then lexer.openFlow .flowMappingStart
  else if first == ']' then lexer.closeFlow .flowSequenceEnd
  else if first == '}' then lexer.closeFlow .flowMappingEnd
  else if first == ',' then lexer.readFlowEntry
  else if first == '-' && apart then lexer.readBlockEntry
  else if first == '?' && (lexer.inFlow || apart) then lexer.readKey
  else if first == ':' && (lexer.inFlow || apart) then lexer.readValue
  else if first == '*' then lexer.readAnchor .alias
  else if first == '&' then lexer.readAnchor .anchor
  else if first == '!' then lexer.readCandidate Mark.tag
  else if first == '|' && !lexer.inFlow then lexer.readBlockScalar false
  else if first == '>' && !lexer.inFlow then lexer.readBlockScalar true
  else if first == '\'' || first == '"' then lexer.readQuoted
  else if lexer.startsPlain then lexer.readPlain
  else .error .malformed

/-- Reads all tokens. The second part is the refusal that ends them early. -/
def readTokens : Nat → Lexer → List Token × Option Refusal
  | 0, lexer => (lexer.emitted.reverse, some .malformed)
  | fuel + 1, lexer =>
    let lexer := lexer.skipToToken
    match lexer.dropStale with
    | .error refusal => (lexer.emitted.reverse, some refusal)
    | .ok lexer =>
      let lexer := lexer.closeBlocks lexer.column
      if current lexer.rest == endMark then
        match lexer.closeAll with
        | .error refusal => (lexer.emitted.reverse, some refusal)
        | .ok lexer => ((lexer.emit .streamEnd).emitted.reverse, none)
      else match lexer.readToken with
        | .error refusal => (lexer.emitted.reverse, some refusal)
        | .ok lexer => readTokens fuel lexer

end Lexer

/-- The tokens of a document, and the refusal that ends them early. -/
def Token.ofGlyphs (glyphs : List Glyph) : List Token × Option Refusal :=
  (Lexer.start glyphs).readTokens (glyphs.length + 1)

end HalfPrecision.Yaml
