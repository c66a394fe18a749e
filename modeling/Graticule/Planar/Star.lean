import Graticule.Planar.Figure

/-!
# Stars

The pieces of chains that leave a node of two figures, in the order of their directions.  What is
known of the placement of one piece is carried around the node to the others.
-/

namespace Graticule

variable {α : Type}

structure Ray (α : Type) where
  origin : Position α
  target : Position α
  isAreal : Bool
  placement : Placement
deriving Repr

namespace Ray

variable [Scalar α]

private def quadrant (d : Position α) : Nat :=
  match decide ((0 : α) ≤ d.x), decide ((0 : α) ≤ d.y) with
  | true, true => 0
  | false, true => 1
  | false, false => 2
  | true, false => 3

def compare [Planar α] (r s : Ray α) : Ordering :=
  let d := r.target.minus r.origin
  let e := s.target.minus s.origin
  if d == e then .eq
  else
    match Ord.compare (quadrant d) (quadrant e) with
    | .eq =>
      match Planar.turn s.origin s.target r.target with
      | .right => .lt
      | .left => .gt
      | .straight => .eq
    | order => order

end Ray

namespace Chain

variable [Scalar α]

private def rayBack? (c : Chain α) (cut : Cut α) (before : Option (Cut α)) : Option (Ray α) :=
  let isVertex := cut.distance == 0
  if isVertex && cut.index == 0 then none
  else
    let index := if isVertex then cut.index - 1 else cut.index
    let target? :=
      match before with
      | some other => if index ≤ other.index then some other.position else c.path[index]?
      | none => c.path[index]?
    target?.map fun target => ⟨cut.position, target, c.isAreal, c.placement.reverse⟩

private def rayAhead? (c : Chain α) (cut : Cut α) (after : Option (Cut α)) : Option (Ray α) :=
  let target? :=
    match after with
    | some other => if other.index == cut.index then some other.position else c.path[cut.index + 1]?
    | none => c.path[cut.index + 1]?
  target?.map fun target => ⟨cut.position, target, c.isAreal, c.placement⟩

private def raysOfCuts (c : Chain α) (before : Option (Cut α)) : List (Cut α) → List (Ray α)
  | [] => []
  | cut :: cuts =>
    (c.rayBack? cut before).toList ++ (c.rayAhead? cut cuts.head?).toList
      ++ raysOfCuts c (some cut) cuts

def rays (c : Chain α) : List (Ray α) := c.raysOfCuts none c.cutAtEnds.cuts

end Chain

structure RayBundle (α : Type) where
  direction : Ray α
  first : List (Ray α)
  second : List (Ray α)

namespace RayBundle

def isAreal (b : RayBundle α) : Bool := (b.first ++ b.second).any (·.isAreal)

/-- The bundles in order with one more ray, which `add` puts into the bundle of its direction. -/
def insert [Scalar α] [Planar α] (add : Ray α → RayBundle α → RayBundle α) (r : Ray α) :
    List (RayBundle α) → List (RayBundle α)
  | [] => [add r ⟨r, [], []⟩]
  | b :: bs =>
    match r.compare b.direction with
    | .lt => add r ⟨r, [], []⟩ :: b :: bs
    | .eq => add r b :: bs
    | .gt => b :: insert add r bs

def listOf [Scalar α] [Planar α] (first second : List (Ray α)) : List (RayBundle α) :=
  let addFirst (r : Ray α) (b : RayBundle α) := { b with first := b.first ++ [r] }
  let addSecond (r : Ray α) (b : RayBundle α) := { b with second := b.second ++ [r] }
  let bundles := first.foldl (fun bs r => insert addFirst r bs) []
  second.foldl (fun bs r => insert addSecond r bs) bundles

end RayBundle

namespace Placement

/-- The placement that rays of one figure in one direction have together.  The boundaries of two
areas are no boundary, and what is inside one of them is inside. -/
def ofRays (rays : List (Ray α)) : Placement :=
  let boundaries := rays.countP (·.placement.on == some .boundary)
  let on : Option Location :=
    if boundaries % 2 == 1 then some .boundary
    else if 0 < boundaries || rays.any (·.placement.on == some .interior) then some .interior
    else none
  let side (of : Placement → Option Location) : Option Location :=
    let known := rays.filterMap fun r => if r.isAreal then of r.placement else none
    if known.contains .interior then some .interior
    else if known.contains .exterior then some .exterior
    else none
  ⟨on, side (·.left), side (·.right)⟩

/-- Placements around a node when `l` is where the points before the first one lie; each comes with
whether it bounds an area. -/
private def spreadFrom (l : Location) : List (Bool × Placement) → List Placement
  | [] => []
  | (isAreal, p) :: rest =>
    let on := p.on.or (some l)
    if !isAreal then { p with on := on } :: spreadFrom l rest
    else if p.right.isSome then { p with on := on } :: spreadFrom (p.left.getD l) rest
    else ⟨on, some l, some l⟩ :: spreadFrom l rest

/-- Placements around a node, completed from what is known to the left of the last one. -/
def spread (placements : List (Bool × Placement)) : List Placement :=
  match (placements.filterMap fun (isAreal, p) => if isAreal then p.left else none).getLast? with
  | some l => spreadFrom l placements
  | none => placements.map (·.2)

end Placement

namespace RayBundle

/-- The parts that meet along and beside the bundles around a node; `first` and `second` tell where
what no ray is known of lies. -/
def meetings (first second : Location) (bundles : List (RayBundle α)) :
    List (Location × Location) :=
  let placements (rays : RayBundle α → List (Ray α)) (l : Location) : List Placement :=
    (Placement.spread (bundles.map fun b => (b.isAreal, .ofRays (rays b)))).map (·.fill l)
  let both := (placements (·.first) first).zip (placements (·.second) second)
  (bundles.zip both).flatMap fun (b, p, q) =>
    let sides := if b.isAreal then [(p.left, q.left), (p.right, q.right)] else []
    ((p.on, q.on) :: sides).filterMap fun
      | (some l, some m) => some (l, m)
      | _ => none

end RayBundle

end Graticule
