import Graticule.Geometry.Shape

/-!
# Measures of shapes

Emptiness, the smallest box around a shape, its area, and the length of a line.
-/

namespace Graticule

variable {α : Type}

namespace Path

section
variable [Scalar α]

def widen (range : α × α) (v : α) : α × α :=
  if range.2 < v then (range.1, v) else if v < range.1 then (v, range.2) else range

def boxBetween (x y : α × α) : Box α :=
  let (left, right) := if x.1 < x.2 then x else (x.2, x.1)
  let (bottom, top) := if y.1 < y.2 then y else (y.2, y.1)
  ⟨left, bottom, right, top⟩

def box? : Path α → Option (Box α)
  | [] => none
  | p :: ps =>
    let x := ps.foldl (fun r q => widen r q.x) (p.x, p.x)
    let y := ps.foldl (fun r q => widen r q.y) (p.y, p.y)
    some (boxBetween x y)

/-- Twice the area inside a closed ring, positive when it runs counter-clockwise; zero for a path
that is open or has fewer than three vertices. -/
def doubleArea (path : Path α) : α :=
  match path with
  | p :: _ :: _ :: _ =>
    if path.isClosed then
      path.edges.foldl (fun sum (a, b) => sum + (a.minus p).cross (b.minus p)) 0
    else 0
  | _ => 0

/-- The area inside a ring, positive when it runs counter-clockwise. -/
def signedArea (path : Path α) : α := path.doubleArea / 2

end

def lineLength [Elementary α] (path : Path α) : α :=
  path.edges.foldl (fun sum (a, b) => sum + Elementary.hypot (b.x - a.x) (b.y - a.y)) 0

end Path

namespace Polygon

def isEmpty (p : Polygon α) : Bool := p.exterior.isEmpty

def area [Scalar α] (p : Polygon α) : α :=
  Scalar.abs (p.holes.foldl (fun rest hole => rest - Scalar.abs hole.signedArea)
    (Scalar.abs p.exterior.signedArea))

end Polygon

namespace Shape

/-- The shape has no vertices; a collection is empty only when it has no members. -/
def isEmpty : Shape α → Bool
  | multiPoint ps => ps.isEmpty
  | lineString path => path.isEmpty
  | multiLineString paths => paths.all (·.isEmpty)
  | polygon p => p.isEmpty
  | multiPolygon ps => ps.all (·.isEmpty)
  | collection members => members.isEmpty
  | _ => false

variable [Scalar α]

private def joinBoxes : Option (Box α) → Option (Box α) → Option (Box α)
  | some b, some c =>
    let lower (v w : α) := if v < w then v else w
    let upper (v w : α) := if w < v then v else w
    some ⟨lower b.left c.left, lower b.bottom c.bottom, upper b.right c.right, upper b.top c.top⟩
  | b, none => b
  | none, c => c

mutual

/-- The smallest box around the vertices of a shape; the holes of a polygon do not count. -/
def box? : Shape α → Option (Box α)
  | point p => Path.box? [p]
  | multiPoint ps => Path.box? ps
  | segment a b => Path.box? [a, b]
  | lineString path => path.box?
  | multiLineString paths => Path.box? paths.flatten
  | polygon p => p.exterior.box?
  | rectangle low high => some ⟨low.x, low.y, high.x, high.y⟩
  | triangle a b c => Path.box? [a, b, c]
  | multiPolygon ps => Path.box? (ps.flatMap (·.exterior))
  | collection members => joinedBox? none members

def joinedBox? (around : Option (Box α)) : List (Shape α) → Option (Box α)
  | [] => around
  | s :: ss => joinedBox? (joinBoxes around s.box?) ss

end

mutual

/-- The area of a shape; points and lines have none. -/
def area : Shape α → α
  | polygon p => p.area
  | rectangle low high => (high.x - low.x) * (high.y - low.y)
  | triangle a b c => Scalar.abs ((a.cross b + b.cross c + c.cross a) / 2)
  | multiPolygon ps => ps.foldl (fun sum p => sum + p.area) 0
  | collection members => totalArea 0 members
  | _ => 0

def totalArea (sum : α) : List (Shape α) → α
  | [] => sum
  | s :: ss => totalArea (sum + s.area) ss

end

end Shape

end Graticule
