import Graticule.Geometry.Shape

/-!
# Point sets of the plane

Areas as point sets, combined by set operations under the even-odd rule, and the parts of two shapes
that meet.  The class `Planar` provides what depends on the type of scalars.
-/

namespace Graticule

inductive SetOperation where
  | union
  | intersection
  | difference
  | symmetricDifference
deriving BEq, DecidableEq, Repr

namespace SetOperation

def name : SetOperation → String
  | union => "union"
  | intersection => "intersection"
  | difference => "difference"
  | symmetricDifference => "symmetric difference"

/-- Whether a point belongs to the result, from whether it belongs to the operands. -/
def holds : SetOperation → Bool → Bool → Bool
  | union, a, b => a || b
  | intersection, a, b => a && b
  | difference, a, b => a && !b
  | symmetricDifference, a, b => a != b

end SetOperation

inductive Turn where
  | left
  | right
  | straight
deriving BEq, DecidableEq, Repr

inductive Location where
  | interior
  | boundary
  | exterior
deriving BEq, DecidableEq, Repr

structure Relation where
  /-- A part of the first shape meets a part of the second. -/
  meets : Location → Location → Bool

namespace Relation

def apart : Relation := ⟨fun a b => a == .exterior || b == .exterior⟩

def intersects (r : Relation) : Bool :=
  r.meets .interior .interior || r.meets .interior .boundary || r.meets .boundary .interior ||
    r.meets .boundary .boundary

def disjoint (r : Relation) : Bool := !r.intersects

/-- The second shape lies in the first and their interiors meet. -/
def contains (r : Relation) : Bool :=
  r.meets .interior .interior && !r.meets .exterior .interior && !r.meets .exterior .boundary

/-- The first shape lies in the second and their interiors meet. -/
def within (r : Relation) : Bool :=
  r.meets .interior .interior && !r.meets .interior .exterior && !r.meets .boundary .exterior

def touches (r : Relation) : Bool :=
  r.intersects && !r.meets .interior .interior

def overlaps (r : Relation) : Bool := r.intersects && !r.touches

end Relation

/-- Scalars over which shapes can be handled as point sets. -/
class Planar (α : Type) where
  /-- The turn at `q` on the way from `p` through `q` to `r`. -/
  turn : Position α → Position α → Position α → Turn
  /-- The polygons of the combined areas. -/
  combine : SetOperation → List (Polygon α) → List (Polygon α) → List (Polygon α)
  /-- The parts of lines inside an area. -/
  clip : List (Path α) → List (Polygon α) → List (Path α)

end Graticule
