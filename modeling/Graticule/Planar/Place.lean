import Graticule.Geometry.Measure
import Graticule.Planar.Basic

/-!
# Places of points

Where a point lies with respect to a shape.  A point belongs to the inside of a ring that winds
around it.  A point on the boundaries of several parts is on the boundary of the whole if their
number is odd.
-/

namespace Graticule

variable {α : Type} [Scalar α]

namespace Scalar

/-- The scalar lies between two others in any order, or is one of them. -/
def isBetween (v a b : α) : Bool :=
  if a < b then decide (a ≤ v) && decide (v ≤ b) else decide (b ≤ v) && decide (v ≤ a)

end Scalar

namespace Position

def isBetween (p a b : Position α) : Bool :=
  Scalar.isBetween p.x a.x b.x && Scalar.isBetween p.y a.y b.y

end Position

namespace Box

def overlaps (b c : Box α) : Bool :=
  !(decide (b.right < c.left) || decide (b.top < c.bottom) || decide (c.right < b.left)
    || decide (c.top < b.bottom))

end Box

structure Edge (α : Type) where
  start : Position α
  stop : Position α
deriving BEq, Repr, Inhabited

namespace Edge

def path (e : Edge α) : Path α := [e.start, e.stop]

def isNear (e f : Edge α) : Bool :=
  match e.path.box?, f.path.box? with
  | some b, some c => b.overlaps c
  | _, _ => false

variable [Planar α]

def turnTo (e : Edge α) (p : Position α) : Turn := Planar.turn e.start e.stop p

def covers (e : Edge α) (p : Position α) : Bool :=
  e.turnTo p == .straight && p.isBetween e.start e.stop

end Edge

namespace Path

def edgeList (path : Path α) : List (Edge α) :=
  path.edges.map fun (p, q) => ⟨p, q⟩

variable [Planar α]

/-- How often edges wind around a point, or nothing if one of them covers it. -/
def windingNumber? (p : Position α) (winding : Int) : List (Edge α) → Option Int
  | [] => some winding
  | e :: es =>
    let onEdge := fun (t : Turn) => t == .straight && Scalar.isBetween p.x e.start.x e.stop.x
    if e.start.y ≤ p.y then
      if p.y ≤ e.stop.y then
        let t := e.turnTo p
        if t == .left && e.stop.y != p.y then windingNumber? p (winding + 1) es
        else if onEdge t then none
        else windingNumber? p winding es
      else windingNumber? p winding es
    else if e.stop.y ≤ p.y then
      let t := e.turnTo p
      if t == .right then windingNumber? p (winding - 1) es
      else if onEdge t then none
      else windingNumber? p winding es
    else windingNumber? p winding es

def placeOf (ring : Path α) (p : Position α) : Location :=
  match ring with
  | [q] => if p == q then .boundary else .exterior
  | ring =>
    match windingNumber? p 0 ring.edgeList with
    | none => .boundary
    | some winding => if winding == 0 then .exterior else .interior

end Path

/-- How a point lies to the parts of a shape: inside one of them or not, and on the boundary of how
many. -/
structure PartCount where
  isInside : Bool
  boundaries : Nat

namespace PartCount

def none : PartCount := ⟨false, 0⟩

def inside : PartCount := ⟨true, 0⟩

def onBoundary : PartCount := ⟨false, 1⟩

def ofLocation : Location → PartCount
  | .interior => inside
  | .boundary => onBoundary
  | .exterior => none

def add (m n : PartCount) : PartCount :=
  ⟨m.isInside || n.isInside, m.boundaries + n.boundaries⟩

def sum (counts : List PartCount) : PartCount := counts.foldl add none

def location (n : PartCount) : Location :=
  if n.boundaries % 2 == 1 then .boundary else if n.isInside then .interior else .exterior

end PartCount

variable [Planar α]

def Polygon.placeOf (polygon : Polygon α) (p : Position α) : Location :=
  match polygon.exterior.placeOf p with
  | .interior =>
    match polygon.holes.find? fun hole => hole.placeOf p != .exterior with
    | none => .interior
    | some hole => if hole.placeOf p == .boundary then .boundary else .exterior
  | place => place

/-- How a point lies to a line, whose ends are its boundary unless it is closed. -/
def Path.partCount (path : Path α) (p : Position α) : PartCount :=
  if !path.isClosed && (path.head? == some p || path.getLast? == some p) then .onBoundary
  else if path.edgeList.any (·.covers p) then .inside
  else .none

namespace Shape

mutual

def partCount (p : Position α) : Shape α → PartCount
  | point q => if p == q then .inside else .none
  | multiPoint qs => if qs.contains p then .inside else .none
  | segment a b => if a == b then (if p == a then .inside else .none) else Path.partCount [a, b] p
  | lineString path => path.partCount p
  | multiLineString paths => .sum (paths.map (·.partCount p))
  | polygon q => .ofLocation (q.placeOf p)
  | rectangle low high => .ofLocation ((rectanglePolygon low high).placeOf p)
  | triangle a b c => .ofLocation ((trianglePolygon a b c).placeOf p)
  | multiPolygon qs => .sum (qs.map fun q => .ofLocation (q.placeOf p))
  | collection members => memberCount p members

def memberCount (p : Position α) : List (Shape α) → PartCount
  | [] => .none
  | s :: ss => (partCount p s).add (memberCount p ss)

end

def placeOf (s : Shape α) (p : Position α) : Location := (s.partCount p).location

end Shape

end Graticule
