/-!
# Values by axis

Sizes, offsets and names that come in twos, one for each axis of the plane.
-/

namespace Graticule

/-- A value for the vertical and one for the horizontal axis. -/
structure AxisPair (α : Type) where
  y : α
  x : α
deriving BEq, DecidableEq, Repr

end Graticule
