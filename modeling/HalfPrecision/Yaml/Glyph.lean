import HalfPrecision.Yaml.Refusal

/-!
This file defines the characters of a YAML document with their places. Bytes are decoded from UTF-8 in portions, line
ends become line feeds, and all characters must be printable.
-/

namespace HalfPrecision.Yaml

/-- How the first bytes of a text in UTF-8 read. -/
inductive Sequence where
  | complete (character : Char) (rest : List UInt8)
  /-- More bytes are needed. -/
  | incomplete
  /-- The first `length` bytes start no character. -/
  | broken (length : Nat) (reason : String)

/-- Whether a byte lies between two bounds. -/
def byteWithin (low high : Nat) (byte : UInt8) : Bool :=
  decide (low ≤ byte.toNat) && decide (byte.toNat ≤ high)

/-- The bounds of the second byte after a first one that starts three or four bytes. -/
def secondBounds (first : UInt8) : Nat × Nat :=
  if first = 0xe0 then (0xa0, 0xbf)
  else if first = 0xed then (0x80, 0x9f)
  else if first = 0xf0 then (0x90, 0xbf)
  else if first = 0xf4 then (0x80, 0x8f)
  else (0x80, 0xbf)

/-- Reads the continuation bytes of a character. `read` of its bytes are read already. -/
def readContinuation (code read : Nat) (bounds : List (Nat × Nat)) (bytes : List UInt8) : Sequence :=
  match bounds, bytes with
  | [], rest => .complete (Char.ofNat code) rest
  | _ :: _, [] => .incomplete
  | (low, high) :: bounds, byte :: rest =>
    if byteWithin low high byte then readContinuation (code * 64 + byte.toNat % 64) (read + 1) bounds rest
    else .broken read "invalid continuation byte"

/-- Reads the first character. -/
def readCharacter (first : UInt8) (rest : List UInt8) : Sequence :=
  let tail : Nat × Nat := (0x80, 0xbf)
  if first < 0x80 then .complete (Char.ofNat first.toNat) rest
  else if first < 0xc2 then .broken 1 "invalid start byte"
  else if first < 0xe0 then readContinuation (first.toNat % 32) 1 [tail] rest
  else if first < 0xf0 then readContinuation (first.toNat % 16) 1 [secondBounds first, tail] rest
  else if first < 0xf5 then readContinuation (first.toNat % 8) 1 [secondBounds first, tail, tail] rest
  else .broken 1 "invalid start byte"

/-- Decodes a portion of `length` bytes. Bytes of an unfinished character are left over. -/
def decodePortion (length : Nat) : Nat → List UInt8 → Except Refusal (List Char × List UInt8)
  | 0, bytes => .ok ([], bytes)
  | _, [] => .ok ([], [])
  | fuel + 1, first :: rest =>
    match readCharacter first rest with
    | .incomplete => .ok ([], first :: rest)
    | .broken count reason =>
      let position := length - (rest.length + 1)
      .error (.encoding first position (position + count - 1) reason)
    | .complete character rest => do
      let (characters, left) ← decodePortion length fuel rest
      return (character :: characters, left)

/-- The count of bytes that are read at once. -/
def portionLength : Nat := 8192

/-- Decodes bytes in portions, with the bytes left over from the portion before. -/
def decodePortions (pending : List UInt8) : List (List UInt8) → Except Refusal (List Char)
  | [] =>
    match pending with
    | [] => .ok []
    | first :: rest => .error (.encoding first 0 rest.length "unexpected end of data")
  | portion :: portions => do
    let bytes := pending ++ portion
    let (characters, left) ← decodePortion bytes.length bytes.length bytes
    return characters ++ (← decodePortions left portions)

/-- Splits bytes into at most `count` portions. -/
def portionsOf : Nat → List UInt8 → List (List UInt8)
  | 0, _ => []
  | _, [] => []
  | count + 1, bytes => bytes.take portionLength :: portionsOf count (bytes.drop portionLength)

/-- Decodes bytes from UTF-8. -/
def decodeUtf8 (bytes : List UInt8) : Except Refusal (List Char) :=
  decodePortions [] (portionsOf bytes.length bytes)

/-- Turns every line end into a line feed. -/
def unifyLineEnds : List Char → List Char
  | '\r' :: '\n' :: rest => '\n' :: unifyLineEnds rest
  | '\r' :: rest => '\n' :: unifyLineEnds rest
  | character :: rest => character :: unifyLineEnds rest
  | [] => []

/-- Whether a character may stand in a document. -/
def isAllowed (character : Char) : Bool :=
  let code := character.toNat
  character == '\t' || character == '\n' || (decide (0x20 ≤ code) && decide (code ≤ 0x7e)) || code == 0x85 ||
    (decide (0xa0 ≤ code) && code != 0xfffe && code != 0xffff)

/-- A line end. -/
def isBreak (character : Char) : Bool :=
  character == '\n' || character == '\x85' || character == '\u2028' || character == '\u2029'

/-- The mark of the byte order, which takes no column. -/
def byteOrderMark : Char := '\ufeff'

/-- The character that stands for the end of a document. No document holds it. -/
def endMark : Char := '\x00'

/-- A character with its place. -/
structure Glyph where
  character : Char
  index : Nat
  line : Nat
  column : Nat

/-- The characters of a document with their places, and the end mark. -/
def Glyph.ofCharacters (index line column : Nat) : List Char → List Glyph
  | [] => [⟨endMark, index, line, column⟩]
  | character :: rest =>
    ⟨character, index, line, column⟩ ::
      (if isBreak character then ofCharacters (index + 1) (line + 1) 0 rest
      else ofCharacters (index + 1) line (if character = byteOrderMark then column else column + 1) rest)

/-- Reads the characters of a document. -/
def Glyph.ofBytes (bytes : List UInt8) : Except Refusal (List Glyph) := do
  let characters := unifyLineEnds (← decodeUtf8 bytes)
  if characters.all isAllowed then return ofCharacters 0 0 0 characters else throw .malformed

/-- The first character. -/
def current (glyphs : List Glyph) : Char :=
  match glyphs with
  | glyph :: _ => glyph.character
  | [] => endMark

/-- The column of the first character. -/
def column (glyphs : List Glyph) : Nat :=
  match glyphs with
  | glyph :: _ => glyph.column
  | [] => 0

/-- The character after `count` others. -/
def peek (count : Nat) (glyphs : List Glyph) : Char := current (glyphs.drop count)

/-- The leading characters that satisfy a predicate, and the rest. -/
def spanGlyphs (predicate : Char → Bool) (glyphs : List Glyph) : List Char × List Glyph :=
  let (taken, rest) := glyphs.span fun glyph => predicate glyph.character
  (taken.map Glyph.character, rest)

/-- Drops the leading characters that satisfy a predicate. -/
def dropGlyphs (predicate : Char → Bool) (glyphs : List Glyph) : List Glyph :=
  glyphs.dropWhile fun glyph => predicate glyph.character

def isBreakOrEnd (character : Char) : Bool := isBreak character || character == endMark

/-- A space, a line end or the end. -/
def isSpaceOrEnd (character : Char) : Bool := character == ' ' || isBreakOrEnd character

def isSpaceOrTab (character : Char) : Bool := character == ' ' || character == '\t'

/-- A space, a tab, a line end or the end. -/
def isBlankOrEnd (character : Char) : Bool := character == '\t' || isSpaceOrEnd character

/-- The line end that is kept of a line end. -/
def keptBreak (character : Char) : Char := if character = '\x85' then '\n' else character

/-- Whether three equal marks of a document boundary stand here. -/
def atBoundary (mark : Char) (glyphs : List Glyph) : Bool :=
  current glyphs == mark && peek 1 glyphs == mark && peek 2 glyphs == mark && isBlankOrEnd (peek 3 glyphs)

/-- Whether a document boundary stands here. -/
def atSeparator (glyphs : List Glyph) : Bool := atBoundary '-' glyphs || atBoundary '.' glyphs

end HalfPrecision.Yaml
