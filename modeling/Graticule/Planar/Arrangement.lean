import Graticule.Planar.Site

/-!
# Arrangements of segments

Segments are cut where they meet, so that the pieces have at most ends in common.  A point belongs
to an area when the ray upward from it crosses the outline an odd number of times; next to a piece
this is asked on either side.
-/

namespace Graticule.Arrangement

def sortedSites (sites : List Site) : List Site :=
  (sites.mergeSort fun p q => !q.precedes p).eraseReps

def chain (sites : List Site) : List Segment :=
  (sites.zip sites.tail).filterMap fun (p, q) => Segment.between? p q

def pieces (others : List Segment) (s : Segment) : List Segment :=
  chain (sortedSites (s.low :: s.high :: others.flatMap s.cuts))

/-- How often the ray upward from a point crosses an outline; a crossing at a vertex counts for the
segment that starts there, and a segment through the point does not count. -/
def crossingsAbove (outline : List Segment) (p : Site) : Nat :=
  outline.countP fun s =>
    decide (s.low.x * p.w ≤ p.x * s.low.w) && decide (p.x * s.high.w < s.high.x * p.w)
      && decide (Site.side s.low s.high p < 0)

structure Outline where
  segments : List Segment
  turned : List Segment

def Outline.of (segments : List Segment) : Outline :=
  ⟨segments, segments.map Segment.quarterTurn⟩

def Outline.encloses (outline : Outline) (p : Site) : Bool :=
  crossingsAbove outline.segments p % 2 == 1

def Outline.covers (outline : Outline) (p : Site) : Bool :=
  outline.segments.any (·.covers p)

/-- The side to the left of a piece, on the way from its earlier to its later end, belongs to the
area. -/
def Outline.leftOf (outline : Outline) (piece : Segment) : Bool :=
  let m := Site.midpoint piece.low piece.high
  let above :=
    if piece.isVertical then crossingsAbove outline.turned m.quarterTurn
    else crossingsAbove outline.segments m
  above % 2 == 1

end Graticule.Arrangement
