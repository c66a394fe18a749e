import Graticule.Planar.Place

/-!
# Extents of shapes

Whether a shape covers areas, lines or points only.  A line without length counts as a point, and a
polygon whose outer ring has no more than two different vertices as a line or a point.
-/

namespace Graticule

inductive Extent where
  | nothing
  | points
  | lines
  | areas
deriving BEq, DecidableEq, Repr

namespace Extent

def rank : Extent → Nat
  | nothing => 0
  | points => 1
  | lines => 2
  | areas => 3

def join (a b : Extent) : Extent := if a.rank < b.rank then b else a

def joinAll (extents : List Extent) : Extent := extents.foldl join nothing

end Extent

section
variable {α : Type} [BEq α]

def Path.extent : Path α → Extent
  | [] => .nothing
  | p :: ps => if ps.all (· == p) then .points else .lines

def Polygon.extent (polygon : Polygon α) : Extent :=
  match polygon.exterior with
  | [] => .nothing
  | p :: ps =>
    match ps.filter (· != p) with
    | [] => .points
    | q :: qs => if qs.all (· == q) then .lines else .areas

end

namespace Shape

variable {α : Type} [Scalar α] [Planar α]

mutual

def extent : Shape α → Extent
  | point _ => .points
  | multiPoint ps => if ps.isEmpty then .nothing else .points
  | segment a b => Path.extent [a, b]
  | lineString path => path.extent
  | multiLineString paths => .joinAll (paths.map (·.extent))
  | polygon p => p.extent
  | rectangle low high => (rectanglePolygon low high).extent
  | triangle a b c =>
    if Planar.turn a b c == .straight then Path.extent [a, b, c] else .areas
  | multiPolygon ps => .joinAll (ps.map (·.extent))
  | collection members => extentOfMembers members

def extentOfMembers : List (Shape α) → Extent
  | [] => .nothing
  | s :: ss => (extent s).join (extentOfMembers ss)

end

end Shape

end Graticule
