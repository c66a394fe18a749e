import Graticule.Projection.LambertConformal
import Graticule.Projection.Mercator
import Graticule.Projection.PolarStereographic

/-!
# Projections

A projection relates longitudes and latitudes in degrees to points of the plane.  Points pass from
one plane to another through the globe; every ellipsoid shares one frame.
-/

namespace Graticule

/-- A map projection, or plain longitudes and latitudes on an ellipsoid. -/
inductive Projection (α : Type) where
  | longLat (ellipsoid : Ellipsoid α)
  | mercator (m : Mercator α)
  | polarStereographic (s : PolarStereographic α)
  | lambertConformal (c : LambertConformal α)
deriving BEq, Repr

namespace Projection

variable {α : Type}

/-- The plane has degrees as coordinates. -/
def isGeographic : Projection α → Bool
  | longLat _ => true
  | _ => false

def method : Projection α → String
  | longLat _ => "longlat"
  | mercator _ => "merc"
  | polarStereographic _ => "stere"
  | lambertConformal _ => "lcc"

def axisUnit (p : Projection α) : String :=
  if p.isGeographic then "degree" else "metre"

def ellipsoid [Scalar α] : Projection α → Ellipsoid α
  | longLat e => e
  | mercator m => m.ellipsoid
  | polarStereographic s => s.ellipsoid
  | lambertConformal c => Ellipsoid.sphere c.radius

variable [Elementary α]

/-- The plane point of a longitude and latitude in degrees. -/
def forward : Projection α → Position α → Position α
  | longLat _, p => p
  | mercator m, p => m.forward p
  | polarStereographic s, p => s.forward p
  | lambertConformal c, p => c.forward p

/-- The longitude and latitude in degrees of a plane point. -/
def inverse : Projection α → Position α → Position α
  | longLat _, p => p
  | mercator m, p => m.inverse p
  | polarStereographic s, p => s.inverse p
  | lambertConformal c, p => c.inverse p

end Projection

/-- The passage from the plane of one projection to that of another. -/
structure Transformer (α : Type) where
  source : Projection α
  target : Projection α

namespace Transformer

variable {α : Type}

/-- The point of the target plane over the same place on the globe. -/
def apply [Elementary α] (t : Transformer α) (p : Position α) : Position α :=
  t.target.forward (t.source.inverse p)

def inverse (t : Transformer α) : Transformer α := ⟨t.target, t.source⟩

end Transformer

end Graticule
