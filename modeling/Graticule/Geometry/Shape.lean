import Graticule.Box

/-!
# Shapes

The vector shapes: points, lines, areas and collections of them.  A polygon has an outer ring and
holes; a ring that is not empty ends where it starts.  `Shape.areas?` and `Shape.lines?` view a
shape as a list of polygons or of lines.
-/

namespace Graticule

abbrev Path (α : Type) := List (Position α)

namespace Path

variable {α : Type}

def isClosed [BEq α] (path : Path α) : Bool := path.head? == path.getLast?

/-- The path, with its start added at the end unless it is there. -/
def close [BEq α] (path : Path α) : Path α :=
  match path with
  | [] => []
  | p :: _ => if path.isClosed then path else path ++ [p]

/-- The path that starts at `p` without vertices equal to the one before. -/
def dropRepeatsFrom [BEq α] (p : Position α) : Path α → Path α
  | [] => [p]
  | q :: rest => if p == q then dropRepeatsFrom p rest else p :: dropRepeatsFrom q rest

def dropRepeats [BEq α] : Path α → Path α
  | [] => []
  | p :: rest => dropRepeatsFrom p rest

def edges (path : Path α) : List (Position α × Position α) := path.zip path.tail

end Path

structure Polygon (α : Type) where
  exterior : Path α
  holes : List (Path α)
deriving BEq, Repr, Inhabited

namespace Polygon

variable {α : Type}

/-- The polygon of a list of rings, each closed where it is open. -/
def ofPaths [BEq α] (exterior : Path α) (holes : List (Path α)) : Polygon α :=
  ⟨exterior.close, holes.map Path.close⟩

def rings (p : Polygon α) : List (Path α) := p.exterior :: p.holes

/-- The polygon whose rings are changed one by one, each closed again where it came open. -/
def mapRings [BEq α] (f : Path α → Path α) (p : Polygon α) : Polygon α :=
  ofPaths (f p.exterior) (p.holes.map f)

end Polygon

/-- A vector shape. -/
inductive Shape (α : Type) where
  | point (p : Position α)
  | multiPoint (ps : List (Position α))
  | segment (a b : Position α)
  | lineString (path : Path α)
  | multiLineString (paths : List (Path α))
  | polygon (p : Polygon α)
  /-- The rectangle between two opposite corners, the lower left and the upper right one. -/
  | rectangle (low high : Position α)
  | triangle (a b c : Position α)
  | multiPolygon (ps : List (Polygon α))
  | collection (members : List (Shape α))
deriving BEq, Repr, Inhabited

namespace Shape

variable {α : Type}

def kind : Shape α → String
  | point _ => "Point"
  | multiPoint _ => "MultiPoint"
  | segment _ _ => "LineString"
  | lineString _ => "LineString"
  | multiLineString _ => "MultiLineString"
  | polygon _ => "Polygon"
  | rectangle _ _ => "Polygon"
  | triangle _ _ _ => "Polygon"
  | multiPolygon _ => "MultiPolygon"
  | collection _ => "GeometryCollection"

/-- The ring of a rectangle, from its lower right corner upward. -/
def rectanglePolygon [BEq α] (low high : Position α) : Polygon α :=
  .ofPaths [⟨high.x, low.y⟩, ⟨high.x, high.y⟩, ⟨low.x, high.y⟩, ⟨low.x, low.y⟩, ⟨high.x, low.y⟩] []

def trianglePolygon [BEq α] (a b c : Position α) : Polygon α :=
  .ofPaths [a, b, c, a] []

def areas? [BEq α] : Shape α → Option (List (Polygon α))
  | polygon p => some [p]
  | multiPolygon ps => some ps
  | rectangle low high => some [rectanglePolygon low high]
  | triangle a b c => some [trianglePolygon a b c]
  | _ => none

def lines? : Shape α → Option (List (Path α))
  | segment a b => some [[a, b]]
  | lineString path => some [path]
  | multiLineString paths => some paths
  | _ => none

def ofPolygons : List (Polygon α) → Shape α
  | [p] => polygon p
  | ps => multiPolygon ps

/-- The polygons of lists of rings, the first ring of each being the outer one; a list without rings
is passed over. -/
def ofRings [BEq α] (lists : List (List (Path α))) : Shape α :=
  multiPolygon (lists.filterMap fun
    | [] => none
    | exterior :: holes => some (.ofPaths exterior holes))

def rectangleBetween [Scalar α] (p q : Position α) : Shape α :=
  let (left, right) := if p.x < q.x then (p.x, q.x) else (q.x, p.x)
  let (bottom, top) := if p.y < q.y then (p.y, q.y) else (q.y, p.y)
  rectangle ⟨left, bottom⟩ ⟨right, top⟩

/-- The polygon of a box, from its upper left corner clockwise. -/
def ofBox [BEq α] (b : Box α) : Shape α :=
  polygon (.ofPaths
    [⟨b.left, b.top⟩, ⟨b.right, b.top⟩, ⟨b.right, b.bottom⟩, ⟨b.left, b.bottom⟩, ⟨b.left, b.top⟩]
    [])

/-- The polygon that the image of `[0, width] × [0, height]` fills, from the image of the origin
down the first column. -/
def ofImage [Scalar α] (width height : α) (t : Affine α) : Shape α :=
  polygon (.ofPaths
    ([⟨0, 0⟩, ⟨0, height⟩, ⟨width, height⟩, ⟨width, 0⟩, ⟨0, 0⟩].map t.apply) [])

mutual

def map [Scalar α] (f : Position α → Position α) : Shape α → Shape α
  | point p => point (f p)
  | multiPoint ps => multiPoint (ps.map f)
  | segment a b => segment (f a) (f b)
  | lineString path => lineString (path.map f)
  | multiLineString paths => multiLineString (paths.map (·.map f))
  | polygon p => polygon (p.mapRings (·.map f))
  | rectangle low high => rectangleBetween (f low) (f high)
  | triangle a b c => triangle (f a) (f b) (f c)
  | multiPolygon ps => multiPolygon (ps.map (·.mapRings (·.map f)))
  | collection members => collection (mapMembers f members)

def mapMembers [Scalar α] (f : Position α → Position α) : List (Shape α) → List (Shape α)
  | [] => []
  | s :: ss => s.map f :: mapMembers f ss

end

end Shape

end Graticule
