import HalfPrecision.Yaml.Glyph

/-! This file defines how the texts of plain, quoted and block scalars are read. -/

namespace HalfPrecision.Yaml.Scalar

/-- Joins the line ends between two lines: a single one becomes a space, and otherwise the first is dropped. -/
def folded (first : Char) (more : List Char) : List Char :=
  if first ≠ '\n' then first :: more else if more.isEmpty then [' '] else more

/-- The marks of flow collections. -/
def isFlowMark (character : Char) : Bool := [',', '[', ']', '{', '}'].contains character

/-- Whether a plain scalar ends before a character that is followed by another. -/
def endsPlain (flow : Bool) (character next : Char) : Bool :=
  isBlankOrEnd character || (character == ':' && (isBlankOrEnd next || (flow && isFlowMark next))) ||
    (flow && (isFlowMark character || character == '?'))

/-- The characters of a plain scalar up to the next blank. -/
def plainRun (flow : Bool) : List Glyph → List Char × List Glyph
  | [] => ([], [])
  | glyph :: rest =>
    if endsPlain flow glyph.character (current rest) then ([], glyph :: rest)
    else
      let (characters, rest) := plainRun flow rest
      (glyph.character :: characters, rest)

/-- The line ends after the first one. There are none before a document boundary. -/
def plainBreaks : List Glyph → Option (List Char) × List Glyph
  | [] => (some [], [])
  | glyph :: rest =>
    if glyph.character == ' ' then plainBreaks rest
    else if isBreak glyph.character then
      if atSeparator rest then (none, rest)
      else
        let (breaks, rest) := plainBreaks rest
        (breaks.map (keptBreak glyph.character :: ·), rest)
    else (some [], glyph :: rest)

/-- The spaces within a plain scalar, and whether a line ended. -/
structure PlainSpaces where
  text : List Char
  endsLine : Bool
  rest : List Glyph

/-- Reads the spaces after characters of a plain scalar. -/
def plainSpaces (glyphs : List Glyph) : PlainSpaces :=
  let (spaces, rest) := spanGlyphs (· == ' ') glyphs
  match rest with
  | [] => ⟨spaces, false, []⟩
  | glyph :: after =>
    if isBreak glyph.character then
      if atSeparator after then ⟨[], true, after⟩
      else match plainBreaks after with
        | (some breaks, rest) => ⟨folded (keptBreak glyph.character) breaks, true, rest⟩
        | (none, rest) => ⟨[], true, rest⟩
    else ⟨spaces, false, rest⟩

/-- Reads a plain scalar whose lines are indented at least by `indent`, after the given spaces. -/
def plainLines (flow : Bool) (indent : Int) : Nat → PlainSpaces → List Char × PlainSpaces
  | 0, spaces => ([], spaces)
  | fuel + 1, spaces =>
    let (run, rest) := plainRun flow spaces.rest
    if current spaces.rest == '#' || run.isEmpty then ([], spaces)
    else
      let next := plainSpaces rest
      if next.text.isEmpty || current next.rest == '#' || (!flow && decide ((column next.rest : Int) < indent)) then
        (spaces.text ++ run, next)
      else
        let (characters, last) := plainLines flow indent fuel next
        (spaces.text ++ run ++ characters, last)

/-- Reads a plain scalar. The second part tells whether a line ended after it. -/
def plain (flow : Bool) (indent : Int) (glyphs : List Glyph) : (String × Bool) × List Glyph :=
  let (characters, last) := plainLines flow indent glyphs.length ⟨[], false, glyphs⟩
  ((String.ofList characters, last.endsLine), last.rest)

/-- The line ends after the first one in a quoted scalar. -/
def quotedBreaks : Nat → List Glyph → Except Refusal (List Char × List Glyph)
  | 0, _ => .error .malformed
  | fuel + 1, glyphs =>
    if atSeparator glyphs then .error .malformed
    else match dropGlyphs isSpaceOrTab glyphs with
      | [] => .error .malformed
      | glyph :: rest =>
        if isBreak glyph.character then do
          let (breaks, rest) ← quotedBreaks fuel rest
          return (keptBreak glyph.character :: breaks, rest)
        else .ok ([], glyph :: rest)

/-- Reads the blanks within a quoted scalar. -/
def quotedSpaces (glyphs : List Glyph) : Except Refusal (List Char × List Glyph) :=
  let (blanks, rest) := spanGlyphs isSpaceOrTab glyphs
  match rest with
  | [] => .error .malformed
  | glyph :: after =>
    if glyph.character == endMark then .error .malformed
    else if isBreak glyph.character then do
      let (breaks, rest) ← quotedBreaks after.length after
      return (folded (keptBreak glyph.character) breaks, rest)
    else .ok (blanks, rest)

/-- What a letter after a backslash stands for. -/
def escapes : List (Char × Char) :=
  [('0', '\x00'), ('a', '\x07'), ('b', '\x08'), ('t', '\t'), ('\t', '\t'), ('n', '\n'), ('v', '\x0b'), ('f', '\x0c'),
    ('r', '\r'), ('e', '\x1b'), (' ', ' '), ('"', '"'), ('\\', '\\'), ('/', '/'), ('N', '\x85'), ('_', '\xa0'),
    ('L', '\u2028'), ('P', '\u2029')]

/-- The count of hexadecimal digits after a letter that marks a code point. -/
def codeLength? (letter : Char) : Option Nat :=
  if letter = 'x' then some 2 else if letter = 'u' then some 4 else if letter = 'U' then some 8 else none

def isHexDigit (character : Char) : Bool :=
  match Numeral.digitValue? character with
  | some digit => decide (digit < 16)
  | none => false

/-- The number that hexadecimal digits spell. -/
def hexValue (digits : List Char) : Nat :=
  digits.foldl (fun value digit => value * 16 + (Numeral.digitValue? digit).getD 0) 0

/-- Checks that a number is a code point. -/
def checkCode (code : Nat) : Except Refusal Nat :=
  if 0x7fffffff < code then .error .longCodePoint
  else if 0x10ffff < code then .error .codePoint
  else .ok code

/-- The code points of characters. -/
def codesOf (characters : List Char) : List Nat := characters.map Char.toNat

/-- Reads the code points that are written after a backslash. -/
def escaped (glyphs : List Glyph) : Except Refusal (List Nat × List Glyph) :=
  let letter := current glyphs
  let rest := glyphs.drop 1
  match escapes.lookup letter, codeLength? letter with
  | some character, _ => .ok ([character.toNat], rest)
  | none, some count =>
    let digits := (rest.take count).map Glyph.character
    if digits.length = count ∧ digits.all isHexDigit then do
      return ([← checkCode (hexValue digits)], rest.drop count)
    else .error .malformed
  | none, none =>
    if isBreak letter then (quotedBreaks rest.length rest).map fun (breaks, rest) => (codesOf breaks, rest)
    else .error .malformed

/-- Reads the code points of a quoted scalar after its opening quote. -/
def quotedBody (quote : Char) : Nat → List Glyph → Except Refusal (List Nat × List Glyph)
  | 0, _ => .error .malformed
  | _, [] => .error .malformed
  | fuel + 1, glyph :: rest =>
    let character := glyph.character
    if character == quote then
      if quote == '\'' && current rest == '\'' then do
        let (codes, rest) ← quotedBody quote fuel (rest.drop 1)
        return ('\''.toNat :: codes, rest)
      else .ok ([], rest)
    else if isBlankOrEnd character then do
      let (spaces, rest) ← quotedSpaces (glyph :: rest)
      let (codes, rest) ← quotedBody quote fuel rest
      return (codesOf spaces ++ codes, rest)
    else if quote == '"' && character == '\\' then do
      let (first, rest) ← escaped rest
      let (codes, rest) ← quotedBody quote fuel rest
      return (first ++ codes, rest)
    else do
      let (codes, rest) ← quotedBody quote fuel rest
      return (character.toNat :: codes, rest)

/-- Reads the code points of a quoted scalar. -/
def quoted (glyphs : List Glyph) : Except Refusal (List Nat × List Glyph) :=
  quotedBody (current glyphs) glyphs.length (glyphs.drop 1)

/-- What is kept of the line ends at the end of a block scalar. -/
inductive Chomping where
  | strip
  | clip
  | keep
deriving DecidableEq

/-- The header of a block scalar. -/
structure Header where
  chomping : Chomping
  increment : Option Nat

/-- Reads the mark of the chomping. -/
def chompingMark? (character : Char) : Option Chomping :=
  if character = '+' then some .keep else if character = '-' then some .strip else none

/-- Reads the mark of the indentation. -/
def incrementMark? (character : Char) : Option Nat :=
  if character.isDigit then some (character.toNat - '0'.toNat) else none

/-- Reads the two marks of a header in any order. -/
def headerMarks (glyphs : List Glyph) : Header × List Glyph :=
  let rest := glyphs.drop 1
  match chompingMark? (current glyphs), incrementMark? (current glyphs) with
  | some chomping, _ =>
    match incrementMark? (current rest) with
    | some increment => (⟨chomping, some increment⟩, rest.drop 1)
    | none => (⟨chomping, none⟩, rest)
  | none, some increment =>
    match chompingMark? (current rest) with
    | some chomping => (⟨chomping, some increment⟩, rest.drop 1)
    | none => (⟨.clip, some increment⟩, rest)
  | none, none => (⟨.clip, none⟩, glyphs)

/-- Skips the rest of a line that may only hold a comment. -/
def skipComment (glyphs : List Glyph) : Except Refusal (List Glyph) :=
  let rest := dropGlyphs (· == ' ') glyphs
  let rest := if current rest == '#' then dropGlyphs (fun character => !isBreakOrEnd character) rest else rest
  if isBreak (current rest) then .ok (rest.drop 1)
  else if current rest == endMark then .ok rest
  else .error .malformed

/-- Reads the header of a block scalar. -/
def header (glyphs : List Glyph) : Except Refusal (Header × List Glyph) := do
  let (header, rest) := headerMarks glyphs
  if header.increment = some 0 ∨ !isSpaceOrEnd (current rest) then throw .malformed
  return (header, ← skipComment rest)

/-- The empty lines before a block scalar, and the largest indentation in them. -/
def leadingLines : List Glyph → (List Char × Nat) × List Glyph
  | [] => (([], 0), [])
  | glyph :: rest =>
    if glyph.character == ' ' then
      let ((breaks, indent), rest) := leadingLines rest
      ((breaks, max (glyph.column + 1) indent), rest)
    else if isBreak glyph.character then
      let ((breaks, indent), rest) := leadingLines rest
      ((keptBreak glyph.character :: breaks, indent), rest)
    else (([], 0), glyph :: rest)

/-- The empty lines between lines of a block scalar. -/
def emptyLines (indent : Nat) : List Glyph → List Char × List Glyph
  | [] => ([], [])
  | glyph :: rest =>
    if glyph.character == ' ' && decide (glyph.column < indent) then emptyLines indent rest
    else if isBreak glyph.character then
      let (breaks, rest) := emptyLines indent rest
      (keptBreak glyph.character :: breaks, rest)
    else ([], glyph :: rest)

/-- The end of a block scalar: its last line end and the empty lines after it. -/
structure BlockEnd where
  lineEnd : List Char
  breaks : List Char
  rest : List Glyph

/-- Whether a line of a block scalar starts here. -/
def startsLine (indent : Nat) (glyphs : List Glyph) : Bool :=
  column glyphs == indent && current glyphs != endMark

/-- Reads the lines of a block scalar. -/
def blockLines (foldedStyle : Bool) (indent : Nat) : Nat → BlockEnd → List Char × BlockEnd
  | 0, last => ([], last)
  | fuel + 1, last =>
    if !startsLine indent last.rest then ([], last)
    else
      let (line, rest) := spanGlyphs (fun character => !isBreakOrEnd character) last.rest
      let lineEnd := if isBreak (current rest) then [keptBreak (current rest)] else []
      let (breaks, rest) := emptyLines indent (rest.drop lineEnd.length)
      if startsLine indent rest then
        let joined :=
          if foldedStyle && lineEnd == ['\n'] && !isSpaceOrTab (current last.rest) && !isSpaceOrTab (current rest) then
            if breaks.isEmpty then [' '] else []
          else lineEnd
        let (characters, finish) := blockLines foldedStyle indent fuel ⟨[], breaks, rest⟩
        (last.breaks ++ line ++ joined ++ characters, finish)
      else (last.breaks ++ line, ⟨lineEnd, breaks, rest⟩)

/-- Reads a block scalar, within a block of the given indentation, after its mark. -/
def block (foldedStyle : Bool) (outer : Int) (glyphs : List Glyph) : Except Refusal (String × List Glyph) := do
  let (header, rest) ← header glyphs
  let least := (max 1 (outer + 1)).toNat
  let (indent, first) : Nat × BlockEnd :=
    match header.increment with
    | none =>
      let ((breaks, indent), rest) := leadingLines rest
      (max least indent, ⟨[], breaks, rest⟩)
    | some increment =>
      let indent := least + increment - 1
      let (breaks, rest) := emptyLines indent rest
      (indent, ⟨[], breaks, rest⟩)
  let (characters, last) := blockLines foldedStyle indent rest.length first
  let tail :=
    match header.chomping with
    | .strip => []
    | .clip => last.lineEnd
    | .keep => last.lineEnd ++ last.breaks
  return (String.ofList (characters ++ tail), last.rest)

end HalfPrecision.Yaml.Scalar
