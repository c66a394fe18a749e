import Graticule.Planar.Crossing
import Graticule.Planar.Extent

/-!
# Figures

The figure of a shape has a chain for each line and ring, which knows where the points on it and
beside it lie, and nodes, points of which it is known where they lie.  Chains are cut where their
edges cross others, at a vertex or between two of them, and each cut of a figure by itself is a
node.
-/

namespace Graticule

/-- Where the points on a chain lie and those to its left and to its right, as far as known. -/
structure Placement where
  on : Option Location
  left : Option Location
  right : Option Location
deriving BEq, DecidableEq, Repr

namespace Placement

def unknown : Placement := ⟨none, none, none⟩

/-- The placement seen when the chain is followed in the other direction. -/
def reverse (p : Placement) : Placement := ⟨p.on, p.right, p.left⟩

def fill (p : Placement) (l : Location) : Placement :=
  ⟨p.on.or (some l), p.left.or (some l), p.right.or (some l)⟩

end Placement

/-- A point where a chain is cut, by the edge and the distance from the start of the edge. -/
structure Cut (α : Type) where
  position : Position α
  index : Nat
  distance : α
deriving Repr, Inhabited

namespace Cut

variable {α : Type} [Scalar α]

def precedes (c d : Cut α) : Bool :=
  decide (c.index < d.index) || (c.index == d.index && decide (c.distance < d.distance))

/-- Cuts in order along a chain with one more, unless there is a cut at its place. -/
def insert (c : Cut α) : List (Cut α) → List (Cut α)
  | [] => [c]
  | d :: ds =>
    if c.precedes d then c :: d :: ds
    else if d.precedes c then d :: insert c ds
    else d :: ds

end Cut

structure Chain (α : Type) where
  /-- The vertices, none equal to the one before. -/
  path : Path α
  /-- The chain bounds an area. -/
  isAreal : Bool
  placement : Placement
  /-- The cuts in order along the chain. -/
  cuts : List (Cut α)

structure Figure (α : Type) where
  chains : List (Chain α)
  /-- Points and where they lie; the first entry of a point counts. -/
  nodes : List (Position α × Location)

/-- An edge of a figure, by the chain and the place in the chain. -/
structure Spot (α : Type) where
  chain : Nat
  index : Nat
  edge : Edge α

structure SpotCrossing (α : Type) where
  first : Spot α
  second : Spot α
  crossing : Crossing α

namespace Path

variable {α : Type} [Scalar α]

/-- The first vertex that comes before all others from left to right and from bottom to top. -/
private def least (p : Position α) (path : Path α) : Position α :=
  path.foldl (fun best q =>
    if q.x < best.x || (q.x == best.x && decide (q.y < best.y)) then q else best) p

def winding [Planar α] (ring : Path α) : Turn :=
  match ring with
  | p :: _ :: _ :: _ :: _ =>
    let v := least p ring
    let others := (ring.dropWhile (· != v) ++ ring.takeWhile (· != v)).filter (· != v)
    match others.getLast?, others.head? with
    | some before, some after => if ring.isClosed then Planar.turn before v after else .straight
    | _, _ => .straight
  | _ => .straight

end Path

namespace Spot

variable {α : Type} [Scalar α]

/-- The distance from the start of an edge, measured along the axis on which the edge is longer. -/
private def distanceTo (e : Edge α) (p : Position α) : α :=
  let x := Scalar.abs (p.x - e.start.x)
  let y := Scalar.abs (p.y - e.start.y)
  let along :=
    if Scalar.abs (e.stop.y - e.start.y) < Scalar.abs (e.stop.x - e.start.x) then x else y
  if p == e.start then 0 else if along == 0 then Scalar.greatest x y else along

/-- The cut at a point of an edge; the end of an edge belongs to the next one. -/
def cutAt (s : Spot α) (p : Position α) : Cut α :=
  if p == s.edge.stop then ⟨p, s.index + 1, 0⟩ else ⟨p, s.index, distanceTo s.edge p⟩

end Spot

namespace Chain

variable {α : Type} [Scalar α]

def cutAtEnds (c : Chain α) : Chain α :=
  let first : Option (Cut α) := c.path.head?.map (⟨·, 0, 0⟩)
  let last : Option (Cut α) := c.path.getLast?.map (⟨·, c.path.length - 1, 0⟩)
  { c with
    cuts := (first.toList ++ last.toList).foldl (fun cuts cut => cut.insert cuts) c.cuts }

end Chain

namespace Figure

variable {α : Type}

def empty : Figure α := ⟨[], []⟩

section
variable [Scalar α]

def node? (f : Figure α) (p : Position α) : Option Location := f.nodes.lookup p

def withNode (f : Figure α) (p : Position α) (l : Location) : Figure α :=
  { f with nodes := (p, l) :: f.nodes }

/-- The figure with a node where a line ends; the ends of two lines are no boundary. -/
def withEnd (f : Figure α) (p : Position α) : Figure α :=
  f.withNode p (if f.node? p == some .boundary then .interior else .boundary)

def withLine (f : Figure α) (path : Path α) : Figure α :=
  match path.dropRepeats with
  | [] => f
  | [p] => f.withNode p .interior
  | p :: q :: rest =>
    let g := (f.withEnd p).withEnd (rest.getLast?.getD q)
    { g with chains := g.chains ++ [⟨p :: q :: rest, false, ⟨some .interior, none, none⟩, []⟩] }

variable [Planar α]

/-- The figure with a ring; the points inside it lie at `inner` and those around it at `outer`. -/
def withRing (inner outer : Location) (f : Figure α) (ring : Path α) : Figure α :=
  match ring.dropRepeats with
  | [] => f
  | p :: rest =>
    let placement : Placement :=
      if ring.winding == .left then ⟨some .boundary, some inner, some outer⟩
      else ⟨some .boundary, some outer, some inner⟩
    { f.withNode p .boundary with chains := f.chains ++ [⟨p :: rest, true, placement, []⟩] }

def withPolygon (f : Figure α) (p : Polygon α) : Figure α :=
  p.holes.foldl (withRing .exterior .interior) (withRing .interior .exterior f p.exterior)

mutual

def withShape (f : Figure α) (s : Shape α) : Figure α :=
  if s.extent == .nothing then f
  else
    match s with
    | .point p => f.withNode p .interior
    | .multiPoint ps => ps.foldl (fun f p => f.withNode p .interior) f
    | .segment a b => f.withLine [a, b]
    | .lineString path => f.withLine path
    | .multiLineString paths => paths.foldl withLine f
    | .polygon p => f.withPolygon p
    | .rectangle low high => f.withPolygon (Shape.rectanglePolygon low high)
    | .triangle a b c => f.withPolygon (Shape.trianglePolygon a b c)
    | .multiPolygon ps => ps.foldl withPolygon f
    | .collection members => f.withMembers members

def withMembers (f : Figure α) : List (Shape α) → Figure α
  | [] => f
  | s :: ss => (f.withShape s).withMembers ss

end

end

def spots (f : Figure α) : List (Spot α) :=
  f.chains.zipIdx.flatMap fun (c, k) => c.path.edgeList.zipIdx.map fun (e, i) => ⟨k, i, e⟩

section
variable [Scalar α]

def cutAt (f : Figure α) (points : List (Spot α × Position α)) : Figure α :=
  { f with
    chains := f.chains.zipIdx.map fun (c, k) =>
      let found := points.filter fun (s, _) => s.chain == k
      { c with cuts := found.foldl (fun cuts (s, p) => (s.cutAt p).insert cuts) c.cuts } }

/-- The figure with a node at each cut, which lies where the points on the chain lie unless it is
known to be on the boundary. -/
def withCutNodes (f : Figure α) : Figure α :=
  f.chains.foldl (fun f c => c.cuts.foldl (fun f cut =>
    match f.node? cut.position, c.placement.on with
    | some .boundary, _ => f
    | _, some l => f.withNode cut.position l
    | _, none => f) f) f

end

variable [Elementary α] [Planar α]

/-- The crossings of edges of one figure with edges of another, among the pairs of edges that are to
be compared. -/
def crossings (areCompared : Spot α → Spot α → Bool) (f g : Figure α) : List (SpotCrossing α) :=
  let others := g.spots
  f.spots.flatMap fun s => others.filterMap fun t =>
    if areCompared s t then (s.edge.crossing? t.edge).map (⟨s, t, ·⟩) else none

/-- The edges follow one another in a chain and have only a vertex in common. -/
private def isVertex (c : SpotCrossing α) : Bool :=
  c.first.chain == c.second.chain
    && (c.first.index + 1 == c.second.index || c.second.index + 1 == c.first.index)
    && match c.crossing with
      | .point _ _ => true
      | .stretch _ _ => false

/-- The figure cut where it crosses itself.  A ring is not compared with itself if all chains are
rings. -/
def cutBySelf (hasOnlyRings : Bool) (f : Figure α) : Figure α :=
  let areCompared (s t : Spot α) : Bool :=
    s.chain != t.chain || (!hasOnlyRings && s.index != t.index)
  let found := (f.crossings areCompared f).filter (!isVertex ·)
  (f.cutAt (found.flatMap fun c =>
    c.crossing.points.flatMap fun p => [(c.first, p), (c.second, p)])).withCutNodes

def ofShape (s : Shape α) : Figure α :=
  let hasOnlyRings : Bool :=
    match s with
    | .lineString path => path.isClosed
    | .multiLineString paths => paths.all (·.isClosed)
    | .polygon _ | .multiPolygon _ => true
    | _ => false
  (empty.withShape s).cutBySelf hasOnlyRings

end Figure

end Graticule
