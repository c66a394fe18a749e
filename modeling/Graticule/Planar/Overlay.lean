import Graticule.Planar.Arrangement
import Graticule.Planar.Basic

/-!
# Overlay of two areas

The outlines of two areas are cut into pieces, and of these the ones remain that have the combined
area on one side only.  Each is directed to keep the area on its left and is followed by the first
remaining piece clockwise at its end.  The cycles are split into rings wherever they come back to a
point; rings that run clockwise are the holes of the others.
-/

namespace Graticule.Overlay

open Arrangement

/-- A piece of the outlines, and whether it belongs to the outline of either area. -/
structure Piece where
  segment : Segment
  first : Bool
  second : Bool
deriving Inhabited

private def merge : List Piece → List Piece
  | [] => []
  | p :: ps =>
    match merge ps with
    | q :: qs =>
      if p.segment = q.segment then ⟨q.segment, p.first != q.first, p.second != q.second⟩ :: qs
      else p :: q :: qs
    | [] => [p]

def piecesOf (first second : List Segment) : List Piece :=
  let all := first ++ second
  let ofFirst := first.flatMap fun s => (pieces all s).map fun t => (⟨t, true, false⟩ : Piece)
  let ofSecond := second.flatMap fun s => (pieces all s).map fun t => (⟨t, false, true⟩ : Piece)
  merge ((ofFirst ++ ofSecond).mergeSort fun p q => p.segment.compare q.segment != .gt)

structure Arc where
  start : Site
  stop : Site
deriving BEq, Inhabited

def arcs (op : SetOperation) (first second : List Segment) : List Arc :=
  let a := Outline.of first
  let b := Outline.of second
  (piecesOf first second).filterMap fun p =>
    if !p.first && !p.second then none
    else
      let inFirst := a.leftOf p.segment
      let inSecond := b.leftOf p.segment
      let left := op.holds inFirst inSecond
      let right := op.holds (inFirst != p.first) (inSecond != p.second)
      if left == right then none
      else if left then some ⟨p.segment.low, p.segment.high⟩
      else some ⟨p.segment.high, p.segment.low⟩

private def isSooner (centre back p q : Site) : Bool :=
  let half (r : Site) : Nat :=
    let s := Site.side centre back r
    if s < 0 then 0 else if s == 0 then 1 else 2
  if half p == half q then decide (Site.side centre p q < 0) else decide (half p < half q)

/-- The number of the arc that follows an arc: of those that start at its end, the first one
clockwise from the way it came. -/
private def follower (all : Array Arc) (starts : List (Site × Nat)) (arc : Arc) : Nat :=
  let candidates := starts.filterMap fun (site, i) => if site == arc.stop then some i else none
  match candidates with
  | [] => 0
  | i :: is => is.foldl (fun best j =>
      if isSooner arc.stop arc.start (all.getD j default).stop (all.getD best default).stop then j
      else best) i

/-- The numbers reached from `i` by at most `n` steps, until `start` comes next. -/
private def orbit (next : Nat → Nat) (start : Nat) : Nat → Nat → List Nat
  | 0, _ => []
  | n + 1, i => i :: if next i = start then [] else orbit next start n (next i)

private def cycles (n : Nat) (next : Nat → Nat) : List (List Nat) :=
  ((List.range n).foldl (fun (seen, found) i =>
    if seen.getD i true then (seen, found)
    else
      let cycle := orbit next i n i
      (cycle.foldl (fun seen j => seen.set! j true) seen, cycle :: found))
    (Array.replicate n false, [])).2.reverse

/-- The stretches of a cycle between returns to a point. -/
def splitAtReturns (cycle : List Site) : List (List Site) :=
  let (rest, loops) := cycle.foldl (fun (path, loops) p =>
    match path.span (· != p) with
    | (_, []) => (p :: path, loops)
    | (above, path) => (path, (p :: above.reverse) :: loops))
    (([], []) : List Site × List (List Site))
  rest.reverse :: loops

def rings (op : SetOperation) (first second : List Segment) : List (List Site) :=
  let all := (arcs op first second).toArray
  let starts := all.toList.zipIdx.map fun (arc, i) => (arc.start, i)
  let next := all.map (follower all starts)
  (cycles all.size fun i => next.getD i 0).flatMap fun cycle =>
    (splitAtReturns (cycle.map fun i => (all.getD i default).start)).filter (2 < ·.length)

private def lowest (ring : List Site) : Option (Site × Site × Site) :=
  let before := match ring.getLast? with
    | some p => p :: ring
    | none => ring
  let after := match ring.head? with
    | some p => ring.tail ++ [p]
    | none => ring
  let corners := before.zip (ring.zip after)
  corners.foldl (fun best (p, q, r) =>
    match best with
    | none => some (p, q, r)
    | some (_, b, _) => if q.precedes b then some (p, q, r) else best) none

def isOuter (ring : List Site) : Bool :=
  match lowest ring with
  | some (p, q, r) => decide (0 < Site.side p q r)
  | none => false

def outlineOf (ring : List Site) : List Segment :=
  match ring with
  | [] => []
  | p :: _ => chain (ring ++ [p])

/-- An outer ring with its outline, a point of it, and how many outer rings enclose it. -/
private structure Outer where
  ring : List Site
  outline : List Segment
  depth : Nat

private def sample (ring : List Site) : Site :=
  match ring with
  | p :: q :: _ => Site.midpoint p q
  | _ => default

private def liesIn (ring : List Site) (outline : List Segment) : Bool :=
  crossingsAbove outline (sample ring) % 2 == 1

/-- The rings as outer rings with the holes directly inside each. -/
def assemble (rings : List (List Site)) : List (List (List Site)) :=
  let (outer, inner) := rings.partition isOuter
  let outlines := outer.map outlineOf
  let outers := (outer.zip outlines).map fun (ring, outline) =>
    (⟨ring, outline, outlines.countP fun o => o != outline && liesIn ring o⟩ : Outer)
  let innerOf := inner.map fun hole =>
    let around := outers.zipIdx.filter fun (o, _) => liesIn hole o.outline
    let nearest := around.foldl (fun best (o, i) =>
      match best with
      | none => some (o.depth, i)
      | some (depth, _) => if depth < o.depth then some (o.depth, i) else best) none
    (hole, nearest.map (·.2))
  outers.zipIdx.map fun (o, i) =>
    o.ring :: innerOf.filterMap fun (hole, owner) => if owner == some i then some hole else none

def combine (op : SetOperation) (first second : List Segment) : List (List (List Site)) :=
  assemble (rings op first second)

end Graticule.Overlay
