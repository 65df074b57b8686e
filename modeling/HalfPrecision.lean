import HalfPrecision.Binary64
import HalfPrecision.Binary64.Decimal
import HalfPrecision.Binary64.Text
import HalfPrecision.Calendar
import HalfPrecision.CommandLine.Arguments
import HalfPrecision.CommandLine.Check
import HalfPrecision.CommandLine.Dump
import HalfPrecision.CommandLine.Outcome
import HalfPrecision.CommandLine.Path
import HalfPrecision.Decimal
import HalfPrecision.Decimal.Bounded
import HalfPrecision.Fault
import HalfPrecision.Format
import HalfPrecision.Format.Decoded
import HalfPrecision.Format.Nearest
import HalfPrecision.Format.Normalized
import HalfPrecision.Half.Classify
import HalfPrecision.Half.Constants
import HalfPrecision.Half.Convert
import HalfPrecision.Half.HexText
import HalfPrecision.Half.Integral
import HalfPrecision.Half.Line
import HalfPrecision.Half.Numeral
import HalfPrecision.Half.Order
import HalfPrecision.Main
import HalfPrecision.Numeral.Integer
import HalfPrecision.Numeral.Real
import HalfPrecision.Operation
import HalfPrecision.Proofs.Binary64.Decimal
import HalfPrecision.Proofs.Binary64.Exact
import HalfPrecision.Proofs.Binary64.Packed
import HalfPrecision.Proofs.Binary64.Single
import HalfPrecision.Proofs.Binary64.Text
import HalfPrecision.Proofs.CommandLine.Check
import HalfPrecision.Proofs.CommandLine.Dump
import HalfPrecision.Proofs.Except
import HalfPrecision.Proofs.Format.Decoded
import HalfPrecision.Proofs.Format.Fields
import HalfPrecision.Proofs.Format.Interchange
import HalfPrecision.Proofs.Format.Layout
import HalfPrecision.Proofs.Format.Line
import HalfPrecision.Proofs.Format.Magnitude
import HalfPrecision.Proofs.Format.Monotone
import HalfPrecision.Proofs.Format.Nearest
import HalfPrecision.Proofs.Format.Normalized
import HalfPrecision.Proofs.Format.Ordered
import HalfPrecision.Proofs.Format.Rounded
import HalfPrecision.Proofs.Format.Widened
import HalfPrecision.Proofs.Format.Wider
import HalfPrecision.Proofs.Half.Classify
import HalfPrecision.Proofs.Half.Comparison
import HalfPrecision.Proofs.Half.Convert
import HalfPrecision.Proofs.Half.Extremum
import HalfPrecision.Proofs.Half.HexText
import HalfPrecision.Proofs.Half.Integral
import HalfPrecision.Proofs.Half.IntegralOrder
import HalfPrecision.Proofs.Half.Line
import HalfPrecision.Proofs.Half.Monotone
import HalfPrecision.Proofs.Half.Numeral
import HalfPrecision.Proofs.Half.Steps
import HalfPrecision.Proofs.Half.TotalOrder
import HalfPrecision.Proofs.Half.Widened
import HalfPrecision.Proofs.Numeral.Integer
import HalfPrecision.Proofs.Operation.Words
import HalfPrecision.Proofs.Rounding.Integral
import HalfPrecision.Proofs.Rounding.Quotient
import HalfPrecision.Proofs.Rounding.Shift
import HalfPrecision.Proofs.Text.Digits
import HalfPrecision.Proofs.Text.Hexadecimal
import HalfPrecision.Proofs.Text.Line
import HalfPrecision.Proofs.Text.Visible
import HalfPrecision.Proofs.Value.Decoded
import HalfPrecision.Proofs.Value.Formats
import HalfPrecision.Proofs.Value.Packing
import HalfPrecision.Proofs.Value.Shift
import HalfPrecision.Proofs.Value.Text
import HalfPrecision.Proofs.Vectors.Load
import HalfPrecision.Proofs.Vectors.Run
import HalfPrecision.Rounding
import HalfPrecision.Scaled
import HalfPrecision.Text.Base64
import HalfPrecision.Text.Blank
import HalfPrecision.Text.Codes
import HalfPrecision.Text.DecimalDigit
import HalfPrecision.Text.Printable
import HalfPrecision.Text.Quoted
import HalfPrecision.Value
import HalfPrecision.Value.Arithmetic
import HalfPrecision.Value.Entries
import HalfPrecision.Value.Equality
import HalfPrecision.Value.Kind
import HalfPrecision.Value.Operand
import HalfPrecision.Value.Packing
import HalfPrecision.Value.Text
import HalfPrecision.Vectors.Document
import HalfPrecision.Vectors.Load
import HalfPrecision.Vectors.Packaged
import HalfPrecision.Vectors.Section
import HalfPrecision.Vectors.Table
import HalfPrecision.Word
import HalfPrecision.Yaml.Content
import HalfPrecision.Yaml.Document
import HalfPrecision.Yaml.Glyph
import HalfPrecision.Yaml.Node
import HalfPrecision.Yaml.Node.Merged
import HalfPrecision.Yaml.Node.Reader
import HalfPrecision.Yaml.Node.Unfolded
import HalfPrecision.Yaml.Refusal
import HalfPrecision.Yaml.Scalar
import HalfPrecision.Yaml.Schema
import HalfPrecision.Yaml.Token
import HalfPrecision.Yaml.Token.Lexer
import HalfPrecision.Yaml.Token.Mark
import HalfPrecision.Yaml.Token.Scalar
