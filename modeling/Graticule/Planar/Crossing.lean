import Graticule.Planar.Place

/-!
# Crossings of edges

The point or the stretch that two edges have in common.  A crossing is proper when it is at an end
of neither edge.  The point of a proper crossing is computed and may be off by rounding, so it is
replaced by the nearest end where it falls outside the boxes of the edges.
-/

namespace Graticule

inductive Crossing (α : Type) where
  | point (p : Position α) (isProper : Bool)
  | stretch (p q : Position α)

namespace Crossing

variable {α : Type}

/-- The crossing is one point at an end of neither edge. -/
def proper? : Crossing α → Option (Position α)
  | point p true => some p
  | _ => none

def points : Crossing α → List (Position α)
  | point p _ => [p]
  | stretch p q => [p, q]

end Crossing

namespace Edge

variable {α : Type} [Elementary α]

def distance (e : Edge α) (p : Position α) : α :=
  let toStart := p.minus e.start
  let toStop := p.minus e.stop
  if e.start == e.stop then Elementary.hypot toStart.x toStart.y
  else
    let d := e.stop.minus e.start
    let square := d.x * d.x + d.y * d.y
    let r := (toStart.x * d.x + toStart.y * d.y) / square
    if r ≤ 0 then Elementary.hypot toStart.x toStart.y
    else if (1 : α) ≤ r then Elementary.hypot toStop.x toStop.y
    else
      let s := ((e.start.y - p.y) * d.x - (e.start.x - p.x) * d.y) / square
      Scalar.abs s * Elementary.hypot d.x d.y

/-- The end of one of two edges that is nearest to the other edge. -/
def nearestEnd (e f : Edge α) : Position α :=
  let candidates := [(e.stop, f), (f.start, e), (f.stop, e)]
  (candidates.foldl (fun (best : Position α × α) (p, other) =>
    let d := other.distance p
    if d < best.2 then (p, d) else best) (e.start, f.distance e.start)).1

private def ordered (a b : α) : α × α := if b < a then (b, a) else (a, b)

private def commonMiddle (a b c d : α) : α :=
  let (least, greatest) := ordered a b
  let (least', greatest') := ordered c d
  ((if least < least' then least' else least)
    + (if greatest' < greatest then greatest' else greatest)) / 2

/-- The point that the lines through two edges have in common, unless they are parallel.
Coordinates are taken from the middle of the boxes of the edges to keep digits. -/
private def lineCrossing? (e f : Edge α) : Option (Position α) :=
  let x0 := commonMiddle e.start.x e.stop.x f.start.x f.stop.x
  let y0 := commonMiddle e.start.y e.stop.y f.start.y f.stop.y
  let p1 : Position α := ⟨e.start.x - x0, e.start.y - y0⟩
  let p2 : Position α := ⟨e.stop.x - x0, e.stop.y - y0⟩
  let q1 : Position α := ⟨f.start.x - x0, f.start.y - y0⟩
  let q2 : Position α := ⟨f.stop.x - x0, f.stop.y - y0⟩
  let px := p1.y - p2.y
  let py := p2.x - p1.x
  let pw := p1.x * p2.y - p2.x * p1.y
  let qx := q1.y - q2.y
  let qy := q2.x - q1.x
  let qw := q1.x * q2.y - q2.x * q1.y
  let w := px * qy - qx * py
  let p : Position α := ⟨(py * qw - qy * pw) / w, (qx * pw - px * qw) / w⟩
  if p.isFinite then some ⟨p.x + x0, p.y + y0⟩ else none

def crossingPoint (e f : Edge α) : Position α :=
  match lineCrossing? e f with
  | some p =>
    if p.isBetween e.start e.stop && p.isBetween f.start f.stop then p else nearestEnd e f
  | none => nearestEnd e f

variable [Planar α]

def overlap? (e f : Edge α) : Option (Crossing α) :=
  let onEdge (p : Position α) := p.isBetween e.start e.stop
  let onOther (p : Position α) := p.isBetween f.start f.stop
  let between (p q : Position α) : Option (Crossing α) :=
    if p == q then some (.point p false) else some (.stretch p q)
  match onEdge f.start, onEdge f.stop, onOther e.start, onOther e.stop with
  | true, true, _, _ => some (.stretch f.start f.stop)
  | _, _, true, true => some (.stretch e.start e.stop)
  | true, _, true, _ => between f.start e.start
  | true, _, _, true => between f.start e.stop
  | _, true, true, _ => between f.stop e.start
  | _, true, _, true => between f.stop e.stop
  | _, _, _, _ => none

def crossing? (e f : Edge α) : Option (Crossing α) :=
  if !e.isNear f then none
  else
    let toStart := e.turnTo f.start
    let toStop := e.turnTo f.stop
    let fromStart := f.turnTo e.start
    let fromStop := f.turnTo e.stop
    let turns := [toStart, toStop, fromStart, fromStop]
    if toStart == toStop && toStart != .straight then none
    else if fromStart == fromStop && fromStart != .straight then none
    else if turns.all (· == .straight) then overlap? e f
    else if turns.all (· != .straight) then some (.point (crossingPoint e f) true)
    else
      let p :=
        if e.start == f.start || e.start == f.stop then e.start
        else if e.stop == f.start || e.stop == f.stop then e.stop
        else if toStart == .straight then f.start
        else if toStop == .straight then f.stop
        else if fromStart == .straight then e.start
        else e.stop
      some (.point p false)

end Edge

end Graticule
