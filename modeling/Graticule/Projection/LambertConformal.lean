import Graticule.Angle
import Graticule.Position

/-!
# Lambert conformal conic projection

The conformal cone around a sphere, true to scale along one or two parallels.  Meridians are rays
from the apex of the cone, `n` times as far apart as on the globe.
-/

namespace Graticule

/-- A Lambert conformal conic projection of a sphere; angles are in radians and lengths in
metres. -/
structure LambertConformal (α : Type) where
  /-- The central meridian. -/
  lon0 : α
  /-- The parallel of the origin. -/
  lat0 : α
  /-- The first parallel that is true to scale. -/
  lat1 : α
  /-- The second parallel that is true to scale. -/
  lat2 : α
  radius : α
  falseEasting : α
  falseNorthing : α
  /-- The cone constant, negative when the apex is above the south pole. -/
  n : α
  /-- The distance from the apex to the equator of a globe of radius one. -/
  f : α
  /-- The distance from the apex to the parallel of the origin. -/
  rho0 : α
deriving BEq, Repr

namespace LambertConformal

variable {α : Type} [Elementary α]

/-- Parallels nearer than this count as one. -/
def parallelTolerance : α := 1e-10

/-- `tan (π/4 + φ/2)`, which grows from zero at the south pole without bound to the north pole. -/
def halfTan (phi : α) : α := Elementary.tan (Angle.halfRight + phi / 2)

def coneConstantOf (lat1 lat2 : α) : α :=
  if Scalar.abs (lat1 - lat2) < parallelTolerance then Elementary.sin lat1
  else
    Elementary.log (Elementary.cos lat1 / Elementary.cos lat2)
      / Elementary.log (halfTan lat2 / halfTan lat1)

/-- The projection with all angles in degrees. -/
def ofDegrees (lat0 lon0 lat1 lat2 radius falseEasting falseNorthing : α) : LambertConformal α :=
  let phi0 := Angle.radians lat0
  let phi1 := Angle.radians lat1
  let phi2 := Angle.radians lat2
  let n := coneConstantOf phi1 phi2
  let f := Elementary.cos phi1 * Elementary.pow (halfTan phi1) n / n
  { lon0 := Angle.radians lon0
    lat0 := phi0
    lat1 := phi1
    lat2 := phi2
    radius := radius
    falseEasting := falseEasting
    falseNorthing := falseNorthing
    n := n
    f := f
    rho0 := radius * f / Elementary.pow (halfTan phi0) n }

def conus : LambertConformal α := ofDegrees 38.5 (-97.5) 38.5 38.5 6371229 0 0

/-- The longitude of a point of the globe from the central meridian, not wrapped. -/
def centredLongitude (c : LambertConformal α) (p : Position α) : α := Angle.radians p.x - c.lon0

/-- A plane point as seen from the apex, the way to the origin being positive. -/
def fromApex (c : LambertConformal α) (p : Position α) : Position α :=
  let sign := Scalar.sign c.n
  ⟨(p.x - c.falseEasting) * sign, (c.rho0 - (p.y - c.falseNorthing)) * sign⟩

/-- The longitude of a plane point, not wrapped. -/
def planeLongitude (c : LambertConformal α) (p : Position α) : α :=
  c.lon0 + Elementary.atan2 (c.fromApex p).x (c.fromApex p).y / c.n

def forward (c : LambertConformal α) (p : Position α) : Position α :=
  let phi := Angle.radians p.y
  let dlon := Angle.wrap (c.centredLongitude p)
  let rho := c.radius * c.f / Elementary.pow (halfTan phi) c.n
  let theta := c.n * dlon
  ⟨rho * Elementary.sin theta + c.falseEasting,
    c.rho0 - rho * Elementary.cos theta + c.falseNorthing⟩

def inverse (c : LambertConformal α) (p : Position α) : Position α :=
  let sign := Scalar.sign c.n
  let rho := Elementary.hypot (c.fromApex p).x (c.fromApex p).y * sign
  let phi :=
    if rho == 0 then sign * Angle.right
    else
      2 * Elementary.atan (Elementary.pow (c.radius * c.f / rho) (1 / c.n)) - Angle.right
  ⟨Angle.degrees (Angle.wrap (c.planeLongitude p)), Angle.degrees phi⟩

end LambertConformal

end Graticule
