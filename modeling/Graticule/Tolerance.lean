import Graticule.Scalar

/-!
# Comparison within a tolerance

Closeness of two scalars, closeness to a whole number, and the remainder that has the sign of the
divisor.
-/

namespace Graticule.Scalar

variable {α : Type} [Scalar α]

/-- `a` differs from `b` by at most `1e-8` and `1e-5` of the magnitude of `b`. -/
def isClose (a b : α) : Bool :=
  decide (abs (a - b) ≤ 1e-8 + 1e-5 * abs b)

/-- `x` is nearer than `tolerance` to a whole number. -/
def isNearlyWhole (x tolerance : α) : Bool :=
  decide (abs (x - round x) < tolerance)

/-- The remainder of `x` by `m` that has the sign of `m`. -/
def modulo (x m : α) : α :=
  let r := remainder x m
  if !(r == 0) && decide (r < 0) != decide (m < 0) then r + m else r

end Graticule.Scalar
