import Graticule.Planar.Star

/-!
# How two shapes lie to one another

The parts of two shapes that meet are found at the nodes of their figures, around these nodes, and
along chains that reach no chain of the other figure.
-/

namespace Graticule

variable {α : Type}

namespace Figure

section
variable [Scalar α]

private def sites (f : Figure α) : List (Position α) :=
  f.nodes.map (·.1) ++ f.chains.flatMap fun c => c.cuts.map (·.position)

/-- Where a node or cut of a figure lies.  A cut is on the boundary if it cuts an odd number of
boundaries. -/
private def siteLocation? (f : Figure α) (p : Position α) : Option Location :=
  match f.node? p with
  | some l => some l
  | none =>
    f.chains.foldl (fun place c => c.cuts.foldl (fun place cut =>
      if cut.position != p then place
      else if c.placement.on == some .boundary then
        some (if place == some .boundary then .interior else .boundary)
      else place.or (some .interior)) place) none

private def locationAt [Planar α] (f : Figure α) (s : Shape α) (p : Position α) : Location :=
  match f.siteLocation? p with
  | some l => l
  | none => s.placeOf p

private def raysAt (rays : List (Ray α)) (p : Position α) : List (Ray α) :=
  rays.filter (·.origin == p)

private def isBoundaryNode (f : Figure α) (p : Position α) : Bool := f.node? p == some .boundary

end

/-- The parts that meet along a chain that reaches no chain of the other figure, in which it lies at
`l`. -/
private def meetingsAlong (c : Chain α) (l : Location) : List (Location × Location) :=
  let p := c.placement
  ((if c.isAreal then [p.on, p.left, p.right] else [p.on]).filterMap id).map (·, l)

private def meetingsAtCrossing (s t : Extent) (isInside : Bool) : List (Location × Location) :=
  match s, t with
  | .areas, .areas =>
    let all : List Location := [.interior, .boundary, .exterior]
    all.flatMap fun a => all.map fun b => (a, b)
  | .areas, .lines =>
    (.boundary, .interior) ::
      if isInside then [(.interior, .interior), (.exterior, .interior)] else []
  | .lines, .areas =>
    (.interior, .boundary) ::
      if isInside then [(.interior, .interior), (.interior, .exterior)] else []
  | .lines, .lines => if isInside then [(.interior, .interior)] else []
  | _, _ => []

end Figure

namespace Shape

variable [Elementary α] [Planar α]

private def placeOfChain (s : Shape α) (c : Chain α) : Location :=
  match s.extent, c.path.head? with
  | .lines, some p | .areas, some p => s.placeOf p
  | _, _ => .exterior

/-- Where the points around a node lie that no ray of the shape tells of. -/
private def placeAround (s : Shape α) (p : Position α) : Location :=
  if s.extent == .areas then s.placeOf p else .exterior

def meetings (s t : Shape α) : List (Location × Location) :=
  let f := Figure.ofShape s
  let g := Figure.ofShape t
  let crossings := f.crossings (fun _ _ => true) g
  let proper := crossings.filterMap (·.crossing.proper?)
  let isInside := proper.any fun p => !(f.isBoundaryNode p || g.isBoundaryNode p)
  let cuts := crossings.filter (·.crossing.proper?.isNone)
  let cutF := f.cutAt (cuts.flatMap fun c => c.crossing.points.map (c.first, ·))
  let cutG := g.cutAt (cuts.flatMap fun c => c.crossing.points.map (c.second, ·))
  let raysF := cutF.chains.flatMap (·.rays)
  let raysG := cutG.chains.flatMap (·.rays)
  let atNodes := (cutF.sites ++ cutG.sites).eraseDups.flatMap fun p =>
    let bundles := RayBundle.listOf (Figure.raysAt raysF p) (Figure.raysAt raysG p)
    (cutF.locationAt s p, cutG.locationAt t p)
      :: RayBundle.meetings (s.placeAround p) (t.placeAround p) bundles
  let freeF := f.chains.zipIdx.filter fun (_, k) => crossings.all (·.first.chain != k)
  let freeG := g.chains.zipIdx.filter fun (_, k) => crossings.all (·.second.chain != k)
  (if proper.isEmpty then [] else Figure.meetingsAtCrossing s.extent t.extent isInside)
    ++ atNodes
    ++ freeF.flatMap (fun (c, _) => Figure.meetingsAlong c (t.placeOfChain c))
    ++ freeG.flatMap (fun (c, _) =>
      (Figure.meetingsAlong c (s.placeOfChain c)).map fun (a, b) => (b, a))

def relation (s t : Shape α) : Relation :=
  match s.box?, t.box? with
  | some b, some c =>
    if b.overlaps c then
      let found := (.exterior, .exterior) :: (s.meetings t).eraseDups
      ⟨fun a b => found.contains (a, b)⟩
    else .apart
  | _, _ => .apart

end Shape

end Graticule
