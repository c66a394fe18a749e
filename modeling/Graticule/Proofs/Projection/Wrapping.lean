import Graticule.Projection.Basic
import Graticule.Proofs.Angle.Turns

/-!
# Longitudes that a projection wraps

A projection wraps the longitude from its central meridian on the way to the plane, and the longitude
of a plane point on the way back.  A point passes from plane to plane when the loops end for both.
-/

namespace Graticule

variable {α : Type} [Elementary α]

namespace Projection

/-- The longitudes that are wrapped on the way to the plane. -/
def forwardLongitudes : Projection α → Position α → List α
  | longLat _, _ => []
  | mercator m, p => [m.centredLongitude p]
  | polarStereographic s, p => [s.centredLongitude p]
  | lambertConformal c, p => [c.centredLongitude p]

/-- The longitudes that are wrapped on the way from the plane. -/
def inverseLongitudes : Projection α → Position α → List α
  | longLat _, _ => []
  | mercator m, p => [m.planeLongitude p]
  | polarStereographic s, p => [s.planeLongitude p]
  | lambertConformal c, p => [c.planeLongitude p]

end Projection

namespace Transformer

end Transformer

end Graticule
