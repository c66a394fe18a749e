/-!
# Exact points

A site is a point with rational coordinates over one denominator.  The sides of a line, the order of
points and the crossing of two segments are found without rounding.
-/

namespace Graticule

structure Site where
  x : Int
  y : Int
  w : Int
deriving BEq, DecidableEq, Repr, Inhabited

namespace Site

def reduce (x y w : Int) : Site :=
  let g : Int := (Int.gcd (Int.gcd x y) w : Nat)
  let g := if w < 0 then -g else g
  ⟨x / g, y / g, w / g⟩

def compare (p q : Site) : Ordering :=
  (Ord.compare (p.x * q.w) (q.x * p.w)).then (Ord.compare (p.y * q.w) (q.y * p.w))

def precedes (p q : Site) : Bool := p.compare q == .lt

/-- Positive when `r` lies to the left of the line from `p` to `q`, negative to the right, and zero
on it. -/
def side (p q r : Site) : Int :=
  p.x * (q.y * r.w - q.w * r.y) - p.y * (q.x * r.w - q.w * r.x) + p.w * (q.x * r.y - q.y * r.x)

def midpoint (p q : Site) : Site :=
  ⟨p.x * q.w + q.x * p.w, p.y * q.w + q.y * p.w, 2 * p.w * q.w⟩

/-- The plane turned by a quarter clockwise, so that upward verticals run to the right. -/
def quarterTurn (p : Site) : Site := ⟨p.y, -p.x, p.w⟩

end Site

/-- The straight line between two points, the earlier one first. -/
structure Segment where
  low : Site
  high : Site
deriving BEq, DecidableEq, Repr, Inhabited

namespace Segment

def between? (p q : Site) : Option Segment :=
  match p.compare q with
  | .lt => some ⟨p, q⟩
  | .gt => some ⟨q, p⟩
  | .eq => none

def compare (s t : Segment) : Ordering :=
  (s.low.compare t.low).then (s.high.compare t.high)

def quarterTurn (s : Segment) : Segment :=
  let p := s.low.quarterTurn
  let q := s.high.quarterTurn
  if q.precedes p then ⟨q, p⟩ else ⟨p, q⟩

def isVertical (s : Segment) : Bool := s.low.x * s.high.w == s.high.x * s.low.w

def covers (s : Segment) (p : Site) : Bool :=
  !p.precedes s.low && !s.high.precedes p && Site.side s.low s.high p == 0

private def apart (a b c d : Int) : Bool :=
  decide (max a b < min c d) || decide (max c d < min a b)

/-- The points of `t` at which `s` has to be cut, both having whole coordinates: where they cross,
or the ends of `t` when the two lie on one line. -/
def cuts (s t : Segment) : List Site :=
  let a := s.low
  let b := s.high
  let c := t.low
  let d := t.high
  if decide (b.x < c.x) || decide (d.x < a.x) || apart a.y b.y c.y d.y then []
  else
    let da := Site.side c d a
    let db := Site.side c d b
    if da == 0 && db == 0 then [c, d].filter s.covers
    else if (decide (0 < da) && decide (0 < db)) || (decide (da < 0) && decide (db < 0)) then []
    else
      let dc := Site.side a b c
      let dd := Site.side a b d
      if (decide (0 < dc) && decide (0 < dd)) || (decide (dc < 0) && decide (dd < 0)) then []
      else [Site.reduce (b.x * da - a.x * db) (b.y * da - a.y * db) (da - db)]

end Segment

end Graticule
