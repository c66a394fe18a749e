import Graticule.Geometry.Measure

/-!
# Normal forms of shapes

Shapes that cover the same points may differ in the order and the number of their vertices.  The
normal form of a shape has rounded coordinates, no vertex along a straight stretch, rings that start
at their least vertex with the area on their left, and parts in order.  Lines that have a vertex in
common count as one part, of which only the box and the length are kept.
-/

namespace Graticule

structure Strand (α : Type) where
  box : Box α
  length : α

/-- What a shape is apart from the order and the number of its vertices. -/
inductive NormalForm (α : Type) where
  /-- Polygons given by open rings, the outer one first. -/
  | areas (kind : String) (polygons : List (List (Path α)))
  | lines (kind : String) (strands : List (Strand α))
  | point (p : Position α)
  | multiPoint (ps : List (Position α))
  | collection (members : List (NormalForm α))
  /-- A bare segment has no other form. -/
  | segment

namespace NormalForm

variable {α : Type} [Elementary α]

/-- The way from `p` through `q` to `s` does not turn at `q`, or turns right back. -/
def isStraight (p q s : Position α) : Bool :=
  let u := q.minus p
  let v := s.minus q
  decide (Scalar.abs (u.cross v)
    ≤ 1e-6 * Elementary.hypot u.x u.y * Elementary.hypot v.x v.y)

/-- A stretch of a ring between `before` and `after` without its first straight vertex, if it has
one. -/
def dropStraight? (before after : Position α) : Path α → Option (Path α)
  | [] => none
  | [q] => if isStraight before q after then some [] else none
  | q :: s :: rest =>
    if isStraight before q s then some (s :: rest)
    else (dropStraight? q after (s :: rest)).map (q :: ·)

/-- An open ring after at most `n` straight vertices were dropped one by one. -/
private def straightenBy : Nat → Path α → Path α
  | 0, ring => ring
  | n + 1, ring =>
    match ring.getLast?, ring.head? with
    | some last, some first =>
      match dropStraight? last first ring with
      | some shorter => straightenBy n shorter
      | none => ring
    | _, _ => ring

def straighten (ring : Path α) : Path α := straightenBy ring.length ring

def opened (ring : Path α) : Path α :=
  if 1 < ring.length && ring.isClosed then ring.dropLast else ring

def comparePositions (p q : Position α) : Ordering :=
  if p.x < q.x then .lt else if q.x < p.x then .gt
  else if p.y < q.y then .lt else if q.y < p.y then .gt
  else .eq

/-- The order of lists by their first difference, a shorter list coming before its prolongations. -/
def compareLists {β : Type} (compare : β → β → Ordering) : List β → List β → Ordering
  | [], [] => .eq
  | [], _ :: _ => .lt
  | _ :: _, [] => .gt
  | a :: as, b :: bs => (compare a b).then (compareLists compare as bs)

private def inOrder {β : Type} (compare : β → β → Ordering) (items : List β) : List β :=
  items.mergeSort fun a b => compare a b != .gt

/-- An open ring turned so that it starts at its least vertex. -/
def fromLeast : Path α → Path α
  | [] => []
  | p :: rest =>
    let least := rest.foldl (fun m q => if comparePositions q m == .lt then q else m) p
    let (before, after) := (p :: rest).span fun q => comparePositions q least != .eq
    after ++ before

def directed (counterClockwise : Bool) (ring : Path α) : Path α :=
  let forward := decide (0 < ring.close.doubleArea)
  fromLeast (if forward == counterClockwise then ring else ring.reverse)

def ring? (round : α → α) (counterClockwise : Bool) (ring : Path α) : Option (Path α) :=
  let corners := straighten (opened (ring.map fun p => ⟨round p.x, round p.y⟩))
  if corners.length < 3 then none else some (directed counterClockwise corners)

/-- The rings of a polygon in normal form, unless its outer ring encloses nothing. -/
def polygon? (round : α → α) (p : Polygon α) : Option (List (Path α)) :=
  (ring? round true p.exterior).map fun exterior =>
    exterior :: inOrder (compareLists comparePositions) (p.holes.filterMap (ring? round false))

def polygons (round : α → α) (ps : List (Polygon α)) : List (List (Path α)) :=
  inOrder (compareLists (compareLists comparePositions)) (ps.filterMap (polygon? round))

private structure Bundle (α : Type) where
  vertices : Path α
  length : α

private def gather (round : α → α) (bundles : List (Bundle α)) (line : Path α) : List (Bundle α) :=
  let vertices : Path α := line.map fun p => ⟨round p.x, round p.y⟩
  let (joined, others) := bundles.partition fun b => b.vertices.any fun p => vertices.any (· == p)
  others ++ [⟨joined.flatMap (·.vertices) ++ vertices,
    joined.foldl (fun sum b => sum + b.length) line.lineLength⟩]

private def compareStrands (s t : Strand α) : Ordering :=
  let key (s : Strand α) : Path α :=
    [⟨s.box.left, s.box.bottom⟩, ⟨s.box.right, s.box.top⟩, ⟨s.length, 0⟩]
  compareLists comparePositions (key s) (key t)

def strands (round roundLength : α → α) (lines : List (Path α)) : List (Strand α) :=
  let bundles := (lines.filter fun l => !l.isEmpty).foldl (gather round) []
  inOrder compareStrands
    (bundles.filterMap fun b => b.vertices.box?.map fun box => ⟨box, roundLength b.length⟩)

mutual

/-- The normal form of a shape, from the rounding of coordinates and of lengths. -/
def ofShape (round roundLength : α → α) (shape : Shape α) : NormalForm α :=
  match shape with
  | .point p => point ⟨round p.x, round p.y⟩
  | .multiPoint ps => multiPoint (ps.map fun p => ⟨round p.x, round p.y⟩)
  | .segment _ _ => segment
  | .collection members => collection (ofMembers round roundLength members)
  | shape =>
    match shape.areas? with
    | some ps => areas shape.kind (polygons round ps)
    | none => lines shape.kind (strands round roundLength (shape.lines?.getD []))

def ofMembers (round roundLength : α → α) : List (Shape α) → List (NormalForm α)
  | [] => []
  | s :: ss => ofShape round roundLength s :: ofMembers round roundLength ss

end

end NormalForm

end Graticule
