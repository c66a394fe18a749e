import Graticule.Crs.Basic
import Graticule.Error
import Graticule.Geometry.Measure
import Graticule.Geometry.Segmentation
import Graticule.Planar.Relation

/-!
# Geometry

A geometry is a shape with the reference system of its coordinates, if that is known.  Operations on
two geometries need the same reference system, and set operations need areal shapes.
-/

namespace Graticule

/-- A shape in a reference system. -/
structure Geometry (α : Type) where
  shape : Shape α
  crs : Option (Crs α)

namespace Geometry

variable {α : Type}

section
variable [Scalar α]

instance : BEq (Geometry α) := ⟨fun g h => g.shape == h.shape && g.crs == h.crs⟩

def withCrs (g : Geometry α) (crs : Option (Crs α)) : Geometry α := ⟨g.shape, crs⟩

def withShape (g : Geometry α) (shape : Shape α) : Geometry α := ⟨shape, g.crs⟩

def envelope (g : Geometry α) : Except (Error α) (Box α) :=
  match g.shape.box? with
  | some b => .ok b
  | none => .error .noEnvelope

def mapVertices (f : Position α → Position α) (g : Geometry α) : Geometry α :=
  g.withShape (g.shape.map f)

def crsLabel (crs : Option (Crs α)) : String :=
  (crs.map (·.identifier)).getD "None"

def checkCrs (g h : Geometry α) : Except (Error α) Unit :=
  if g.crs == h.crs then .ok () else .error (.crsMismatch (crsLabel g.crs) (crsLabel h.crs))

variable [Planar α]

/-- The combined area of two geometries, in the reference system of the first. -/
def combine (op : SetOperation) (g h : Geometry α) : Except (Error α) (Geometry α) := do
  g.checkCrs h
  match g.shape.areas?, h.shape.areas? with
  | some a, some b => return g.withShape (.ofPolygons (Planar.combine op a b))
  | _, _ => throw (.notAreal op.name g.shape.kind h.shape.kind)

/-- The areas of several geometries combined from left to right; none for an empty list. -/
def combineAll (op : SetOperation) : List (Geometry α) → Except (Error α) (Option (Geometry α))
  | [] => .ok none
  | g :: gs => some <$> gs.foldlM (combine op) g

def unaryUnion (gs : List (Geometry α)) : Except (Error α) (Option (Geometry α)) :=
  combineAll .union gs

def unaryIntersection (gs : List (Geometry α)) : Except (Error α) (Option (Geometry α)) :=
  combineAll .intersection gs

end

section
variable [Elementary α] [Planar α]

def relation (g h : Geometry α) : Except (Error α) Relation := do
  g.checkCrs h
  return g.shape.relation h.shape

/-- `h` lies in `g` and their interiors meet. -/
def contains (g h : Geometry α) : Except (Error α) Bool := (·.contains) <$> g.relation h

/-- `g` lies in `h` and their interiors meet. -/
def within (g h : Geometry α) : Except (Error α) Bool := (·.within) <$> g.relation h

def intersects (g h : Geometry α) : Except (Error α) Bool := (·.intersects) <$> g.relation h

def disjoint (g h : Geometry α) : Except (Error α) Bool := (·.disjoint) <$> g.relation h

/-- The geometries have points in common but their interiors do not. -/
def touches (g h : Geometry α) : Except (Error α) Bool := (·.touches) <$> g.relation h

def overlaps (g h : Geometry α) : Except (Error α) Bool := (·.overlaps) <$> g.relation h

end

/-- The geometry with vertices on its edges, none longer than a step. -/
def segmented [Elementary α] (step : α) (g : Geometry α) : Geometry α :=
  g.withShape (g.shape.segmented step)

end Geometry

end Graticule
