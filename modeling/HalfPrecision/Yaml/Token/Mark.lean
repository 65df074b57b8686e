import HalfPrecision.Yaml.Token
import HalfPrecision.Yaml.Token.Scalar

/-! This file defines how directives, anchors and tags are read. -/

namespace HalfPrecision.Yaml.Mark

/-- A character of a name. -/
def isWord (character : Char) : Bool := character.isAlphanum || character == '-' || character == '_'

/-- A character of a tag that is not escaped. -/
def isTagCharacter (character : Char) : Bool :=
  character.isAlphanum || "-;/?:@&=+$,_.!~*'()[]".toList.contains character

/-- Reads a number of a version. -/
def versionNumber (glyphs : List Glyph) : Except Refusal (Nat × List Glyph) :=
  let (digits, rest) := spanGlyphs Char.isDigit glyphs
  if digits.isEmpty then .error .malformed
  else match Numeral.readInteger 10 (String.ofList digits) with
    | .ok number => .ok (number.toNat, rest)
    | .error refusal => .error (.numeral refusal)

/-- Reads the version after the name of its directive. -/
def version (glyphs : List Glyph) : Except Refusal (Token × List Glyph) := do
  let (major, rest) ← versionNumber (dropGlyphs (· == ' ') glyphs)
  if current rest != '.' then throw .malformed
  let (_, rest) ← versionNumber (rest.drop 1)
  if isSpaceOrEnd (current rest) then return (.version major, rest) else throw .malformed

/-- Reads a handle: an exclamation mark, or a name between two of them. -/
def handle (glyphs : List Glyph) : Except Refusal (String × List Glyph) :=
  if current glyphs != '!' then .error .malformed
  else if peek 1 glyphs == ' ' then .ok ("!", glyphs.drop 1)
  else
    let (name, rest) := spanGlyphs isWord (glyphs.drop 1)
    if current rest == '!' then .ok (String.ofList ('!' :: name ++ ['!']), rest.drop 1) else .error .malformed

/-- Reads the bytes that are escaped by percent signs. -/
def escapedBytes : Nat → List Glyph → Except Refusal (List UInt8 × List Glyph)
  | 0, glyphs => .ok ([], glyphs)
  | fuel + 1, glyphs =>
    if current glyphs != '%' then .ok ([], glyphs)
    else
      let digits := [peek 1 glyphs, peek 2 glyphs]
      if digits.all Scalar.isHexDigit then do
        let (bytes, rest) ← escapedBytes fuel (glyphs.drop 3)
        return (UInt8.ofNat (Scalar.hexValue digits) :: bytes, rest)
      else .error .malformed

/-- Reads the characters of a tag. -/
def tagCharacters : Nat → List Glyph → Except Refusal (List Char × List Glyph)
  | 0, glyphs => .ok ([], glyphs)
  | fuel + 1, glyphs =>
    let (plain, rest) := spanGlyphs isTagCharacter glyphs
    if current rest != '%' then .ok (plain, rest)
    else do
      let (bytes, rest) ← escapedBytes rest.length rest
      let some escaped := (decodeUtf8 bytes).toOption | throw .malformed
      let (characters, rest) ← tagCharacters fuel rest
      return (plain ++ escaped ++ characters, rest)

/-- Reads the text of a tag, which is not empty. -/
def tagText (glyphs : List Glyph) : Except Refusal (String × List Glyph) := do
  let (characters, rest) ← tagCharacters glyphs.length glyphs
  if characters.isEmpty && current glyphs != '%' then throw .malformed
  return (String.ofList characters, rest)

/-- Reads a handle and the start of its tags after the name of the directive. -/
def tagHandle (glyphs : List Glyph) : Except Refusal (Token × List Glyph) := do
  let (name, rest) ← handle (dropGlyphs (· == ' ') glyphs)
  if current rest != ' ' then throw .malformed
  let (start, rest) ← tagText (dropGlyphs (· == ' ') rest)
  if isSpaceOrEnd (current rest) then return (.tagHandle name start, rest) else throw .malformed

/-- Reads a directive after the percent sign. -/
def directive (glyphs : List Glyph) : Except Refusal (Token × List Glyph) := do
  let (name, rest) := spanGlyphs isWord glyphs
  if name.isEmpty || !isSpaceOrEnd (current rest) then throw .malformed
  let (token, rest) ←
    if name = "YAML".toList then version rest
    else if name = "TAG".toList then tagHandle rest
    else pure (Token.otherDirective, dropGlyphs (fun character => !isBreakOrEnd character) rest)
  return (token, ← Scalar.skipComment rest)

/-- Reads the name of an anchor or an alias after its mark. -/
def anchorName (glyphs : List Glyph) : Except Refusal (String × List Glyph) :=
  let (name, rest) := spanGlyphs isWord glyphs
  let next := current rest
  if name.isEmpty || !(isBlankOrEnd next || ['?', ':', ',', ']', '}', '%', '@', '\x60'].contains next) then
    .error .malformed
  else .ok (String.ofList name, rest)

/-- Whether an exclamation mark stands before the next space. -/
def hasHandle (glyphs : List Glyph) : Bool :=
  (spanGlyphs (fun character => !isSpaceOrEnd character) glyphs).1.contains '!'

/-- Reads a tag. -/
def tag (glyphs : List Glyph) : Except Refusal (Token × List Glyph) := do
  let next := peek 1 glyphs
  let (token, rest) ←
    if next == '<' then do
      let (suffix, rest) ← tagText (glyphs.drop 2)
      if current rest == '>' then pure (Token.tag none suffix, rest.drop 1) else throw .malformed
    else if isBlankOrEnd next then pure (Token.tag none "!", glyphs.drop 1)
    else do
      let (name, rest) ← if hasHandle (glyphs.drop 1) then handle glyphs else pure ("!", glyphs.drop 1)
      let (suffix, rest) ← tagText rest
      pure (Token.tag (some name) suffix, rest)
  if isSpaceOrEnd (current rest) then return (token, rest) else throw .malformed

end HalfPrecision.Yaml.Mark
