import Graticule.Ellipsoid
import Graticule.Position

/-!
# Mercator projection

The conformal cylinder around the equator.  Meridians are verticals at distances proportional to
their longitude from the central one; the poles are infinitely far away.
-/

namespace Graticule

/-- A Mercator projection; angles are in radians and lengths in metres. -/
structure Mercator (α : Type) where
  ellipsoid : Ellipsoid α
  /-- The central meridian. -/
  lon0 : α
  /-- The scale along the equator. -/
  k0 : α
  falseEasting : α
  falseNorthing : α
deriving BEq, Repr

namespace Mercator

variable {α : Type} [Elementary α]

/-- The projection with a central meridian in degrees. -/
def ofDegrees (ellipsoid : Ellipsoid α) (lon0 k0 falseEasting falseNorthing : α) : Mercator α :=
  ⟨ellipsoid, Angle.radians lon0, k0, falseEasting, falseNorthing⟩

/-- The scale along the equator that makes the parallel at `latTs` degrees true to length. -/
def scaleOfParallel (ellipsoid : Ellipsoid α) (latTs : α) : α :=
  Latitude.parallelRadius (Angle.radians latTs) ellipsoid.eccentricity

def web : Mercator α := ofDegrees Ellipsoid.webSphere 0 1 0 0

def world : Mercator α := ofDegrees Ellipsoid.wgs84 0 1 0 0

def pacific : Mercator α := ofDegrees Ellipsoid.wgs84 150 1 0 0

/-- Metres on the equator for one radian of longitude. -/
def equatorScale (m : Mercator α) : α := m.ellipsoid.a * m.k0

def centredLongitude (m : Mercator α) (p : Position α) : α := Angle.radians p.x - m.lon0

def planeLongitude (m : Mercator α) (p : Position α) : α :=
  m.lon0 + (p.x - m.falseEasting) / m.equatorScale

def forward (m : Mercator α) (p : Position α) : Position α :=
  let dlon := Angle.wrap (m.centredLongitude p)
  let t := Latitude.isometric (Angle.radians p.y) m.ellipsoid.eccentricity
  ⟨m.falseEasting + m.equatorScale * dlon, m.falseNorthing - m.equatorScale * Elementary.log t⟩

def inverse (m : Mercator α) (p : Position α) : Position α :=
  let lon := Angle.wrap (m.planeLongitude p)
  let t := Elementary.exp (-(p.y - m.falseNorthing) / m.equatorScale)
  ⟨Angle.degrees lon, Angle.degrees (Latitude.ofIsometric t m.ellipsoid.eccentricity)⟩

end Mercator

end Graticule
