import Graticule.Ellipsoid
import Graticule.Position

/-!
# Polar stereographic projection

The conformal projection onto a plane at a pole, true to scale along a given parallel.  Meridians
are rays from the pole.  For a plane at the south pole latitudes, longitudes and plane coordinates
change sign, which turns it into a plane at the north pole.
-/

namespace Graticule

/-- A polar stereographic projection; angles are in radians and lengths in metres. -/
structure PolarStereographic (α : Type) where
  ellipsoid : Ellipsoid α
  /-- The plane lies at the south pole. -/
  south : Bool
  /-- The parallel that is true to scale. -/
  latTs : α
  /-- The meridian that runs straight down from the north pole, or up from the south pole. -/
  lon0 : α
  falseEasting : α
  falseNorthing : α
  /-- The ratio of a distance from the pole to the isometric variable. -/
  radiusScale : α
deriving BEq, Repr

namespace PolarStereographic

variable {α : Type} [Elementary α]

/-- A parallel nearer than this to the pole counts as the pole. -/
def poleTolerance : α := 1e-12

/-- The ratio of distance to isometric variable for a parallel of true scale, seen from its pole. -/
def radiusScaleOf (ellipsoid : Ellipsoid α) (latTs : α) : α :=
  let e := ellipsoid.eccentricity
  if Scalar.abs (latTs - Angle.right) < poleTolerance then
    2 * ellipsoid.a
      / Elementary.sqrt (Elementary.pow (1 + e) (1 + e) * Elementary.pow (1 - e) (1 - e))
  else ellipsoid.a * Latitude.parallelRadius latTs e / Latitude.isometric latTs e

/-- The projection with the true parallel and the straight meridian in degrees. -/
def ofDegrees (ellipsoid : Ellipsoid α) (south : Bool) (latTs lon0 falseEasting falseNorthing : α) :
    PolarStereographic α where
  ellipsoid := ellipsoid
  south := south
  latTs := Angle.radians latTs
  lon0 := Angle.radians lon0
  falseEasting := falseEasting
  falseNorthing := falseNorthing
  radiusScale := radiusScaleOf ellipsoid (Angle.radians (if south then -latTs else latTs))

/-- The Arctic projection true to scale at 70° north, with 45° west running down. -/
def arctic : PolarStereographic α := ofDegrees Ellipsoid.wgs84 false 70 (-45) 0 0

/-- The Antarctic projection true to scale at 71° south, with Greenwich running up. -/
def antarctic : PolarStereographic α := ofDegrees Ellipsoid.wgs84 true (-71) 0 0 0

def facing (s : PolarStereographic α) (v : α) : α := if s.south then -v else v

/-- The longitude of a point of the globe from the straight meridian, not wrapped. -/
def centredLongitude (s : PolarStereographic α) (p : Position α) : α := Angle.radians p.x - s.lon0

def fromPole (s : PolarStereographic α) (p : Position α) : Position α :=
  ⟨s.facing (p.x - s.falseEasting), s.facing (p.y - s.falseNorthing)⟩

def distance (s : PolarStereographic α) (p : Position α) : α :=
  Elementary.hypot (s.fromPole p).x (s.fromPole p).y

def planeLongitude (s : PolarStereographic α) (p : Position α) : α :=
  let d := s.fromPole p
  s.lon0 + s.facing (if s.distance p == 0 then 0 else Elementary.atan2 d.x (-d.y))

def forward (s : PolarStereographic α) (p : Position α) : Position α :=
  let phi := s.facing (Angle.radians p.y)
  let dlon := s.facing (Angle.wrap (s.centredLongitude p))
  let rho := s.radiusScale * Latitude.isometric phi s.ellipsoid.eccentricity
  ⟨s.facing (rho * Elementary.sin dlon) + s.falseEasting,
    s.facing (-rho * Elementary.cos dlon) + s.falseNorthing⟩

def inverse (s : PolarStereographic α) (p : Position α) : Position α :=
  let t := s.distance p / s.radiusScale
  let phi := s.facing (Latitude.ofIsometric t s.ellipsoid.eccentricity)
  ⟨Angle.degrees (Angle.wrap (s.planeLongitude p)), Angle.degrees phi⟩

end PolarStereographic

end Graticule
