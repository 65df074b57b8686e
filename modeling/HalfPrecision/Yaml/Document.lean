import HalfPrecision.Yaml.Content
import HalfPrecision.Yaml.Node.Reader
import HalfPrecision.Yaml.Token.Lexer

/-! This file defines the value of the bytes of a YAML document. -/

namespace HalfPrecision.Yaml

/-- Reads a document. An empty one is null. -/
def read (bytes : List UInt8) : Except Refusal Value := do
  let (tokens, failure) := Token.ofGlyphs (← Glyph.ofBytes bytes)
  match ← Node.ofTokens tokens failure with
  | some node => node.value
  | none => return .null

end HalfPrecision.Yaml
