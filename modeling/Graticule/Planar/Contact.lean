import Graticule.Planar.Place

/-!
# Lines that reach shapes

Whether a line has a point in common with a shape, an area including its boundary.
-/

namespace Graticule

variable {α : Type} [Scalar α] [Planar α]

def Edge.meets (e f : Edge α) : Bool :=
  if e.start == e.stop then f.covers e.start
  else
    let toStart := e.turnTo f.start
    let toStop := e.turnTo f.stop
    if toStart != toStop then f.turnTo e.start != f.turnTo e.stop
    else
      toStart == .straight && (f.start.isBetween e.start e.stop || f.stop.isBetween e.start e.stop
        || e.stop.isBetween f.start f.stop)

def areApart (b c : Option (Box α)) : Bool :=
  match b, c with
  | some b, some c => !b.overlaps c
  | _, _ => false

def Path.meetsEdge (path : Path α) (e : Edge α) : Bool :=
  !areApart path.box? e.path.box? && path.edgeList.any (·.meets e)

def Polygon.covers (polygon : Polygon α) (p : Position α) : Bool :=
  polygon.placeOf p != .exterior

def Polygon.meetsEdge (polygon : Polygon α) (e : Edge α) : Bool :=
  polygon.rings.any (·.meetsEdge e) || polygon.covers e.start || polygon.covers e.stop

namespace Shape

mutual

def meetsEdge (e : Edge α) : Shape α → Bool
  | point p => e.covers p
  | multiPoint ps => ps.any e.covers
  | segment a b => (⟨a, b⟩ : Edge α).meets e
  | lineString path => path.meetsEdge e
  | multiLineString paths => paths.any (·.meetsEdge e)
  | polygon p => p.meetsEdge e
  | rectangle low high => (rectanglePolygon low high).meetsEdge e
  | triangle a b c => (trianglePolygon a b c).meetsEdge e
  | multiPolygon ps => ps.any (·.meetsEdge e)
  | collection members => memberMeetsEdge e members

def memberMeetsEdge (e : Edge α) : List (Shape α) → Bool
  | [] => false
  | s :: ss => meetsEdge e s || memberMeetsEdge e ss

end

end Shape

def Path.meets (path : Path α) (s : Shape α) : Bool :=
  !areApart path.box? s.box? && path.edgeList.any fun e => s.meetsEdge e

end Graticule
