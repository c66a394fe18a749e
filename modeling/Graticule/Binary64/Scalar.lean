import Graticule.Binary64.Arithmetic
import Graticule.Scalar

/-!
# Machine numbers as scalars

The 64-bit machine numbers are scalars with an infinity and elementary functions.
-/

namespace Graticule.Binary64

instance instScalar : Scalar Float where
  toAdd := inferInstance
  toSub := inferInstance
  toMul := inferInstance
  toDiv := inferInstance
  toNeg := inferInstance
  toLT := inferInstance
  toLE := inferInstance
  toBEq := inferInstance
  decLt := Float.decLt
  decLe := Float.decLe
  ofNat := Float.ofNat
  ofInt := Float.ofInt
  ofDecimal := Float.ofScientific
  abs := Float.abs
  sign := sign
  floor := Float.floor
  ceil := Float.ceil
  round := Float.round
  remainder := remainder
  least := least
  greatest := greatest
  isFinite := Float.isFinite
  toInt := fun x => x.toInt64.toInt
  toNat := fun x => x.toUInt64.toNat

instance instUnbounded : Unbounded Float where
  infinity := 1.0 / 0.0

instance instElementary : Elementary Float where
  pi := pi
  sin := Float.sin
  cos := Float.cos
  tan := Float.tan
  atan := atan
  atan2 := Float.atan2
  exp := exp
  log := Float.log
  sqrt := Float.sqrt
  hypot := hypot
  pow := pow

end Graticule.Binary64
