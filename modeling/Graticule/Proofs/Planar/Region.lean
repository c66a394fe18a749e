import Graticule.Proofs.Planar.Contact
import Mathlib.Data.List.Find

/-!
# Regions of areal shapes

The region of an areal shape is what its polygons and their boundaries cover.  It lies in the box of
the shape, and a line that is not found to meet the shape has no point in it,
`Shape.IsAreal.covers_eq_false_of_meets`: an edge away from the rings lies on one side of each, and
its start is not inside.
-/

namespace Graticule

open scoped Exact

variable {K : Type} [Field K] [LinearOrder K] [FloorRing K]

/-- A piece of an edge has no points but those of the edge. -/
theorem Edge.passes_of_passes_piece [IsStrictOrderedRing K] {e : Edge K} {p q : Position K}
    (hp : e.passes p = true) (hq : Edge.passes ⟨e.start, p⟩ q = true) : e.passes q = true := by
  obtain ⟨r, hr, hpx, hpy⟩ := (passes_iff_exists _ _).1 hp
  obtain ⟨t, ht, hqx, hqy⟩ := (passes_iff_exists _ _).1 hq
  refine (passes_iff_exists _ _).2 ⟨t * r, ⟨mul_nonneg ht.1 hr.1, mul_le_one₀ ht.2 hr.1 hr.2⟩, ?_, ?_⟩
  · rw [hqx, hpx]
    ring
  · rw [hqy, hpy]
    ring

/-! ## Polygons and edges -/

namespace Polygon

variable [IsStrictOrderedRing K]

theorem placeOf_congr {α : Type} [Scalar α] [Planar α] {polygon : Polygon α} {p q : Position α}
    (h : ∀ ring ∈ polygon.rings, Path.placeOf ring p = Path.placeOf ring q) :
    polygon.placeOf p = polygon.placeOf q := by
  have hholes : ∀ hole ∈ polygon.holes, Path.placeOf hole p = Path.placeOf hole q := fun hole hmem =>
    h hole (List.mem_cons_of_mem _ hmem)
  have hfind : (polygon.holes.find? fun hole => hole.placeOf p != .exterior) =
      polygon.holes.find? fun hole => hole.placeOf q != .exterior :=
    List.find?_congr fun hole hmem => by rw [hholes hole hmem]
  unfold placeOf
  rw [h polygon.exterior List.mem_cons_self, hfind]
  cases hexterior : polygon.exterior.placeOf q with
  | boundary => rfl
  | exterior => rfl
  | interior =>
    cases hhole : polygon.holes.find? fun hole => hole.placeOf q != .exterior with
    | none => rfl
    | some hole =>
      dsimp only
      rw [hholes hole (List.mem_of_find?_eq_some hhole)]

/-- The rings are closed, and none is a single point. -/
structure IsProper (polygon : Polygon K) : Prop where
  isClosed : ∀ ring ∈ polygon.rings, Path.isClosed ring = true
  length_ne_one : ∀ ring ∈ polygon.rings, ring.length ≠ 1

section

variable [Planar (Extended K)] (hturn : Planar.TurnsExactly K)

include hturn

theorem holds_of_covers {polygon : Polygon K} (hproper : polygon.IsProper) {b : Box K}
    (hb : ∀ q ∈ polygon.exterior, b.Holds q) {p : Position K}
    (hp : polygon.finite.covers p.finite = true) : b.Holds p := by
  refine Path.holds_of_placeOf hturn (hproper.isClosed _ List.mem_cons_self)
    (hproper.length_ne_one _ List.mem_cons_self) hb fun hexterior => ?_
  have hplace : polygon.finite.exterior.placeOf p.finite = .exterior := hexterior
  unfold covers placeOf at hp
  rw [hplace] at hp
  cases hp

end

end Polygon

/-- No point of an edge that is not found to meet a polygon belongs to it. -/
theorem Polygon.covers_eq_false_of_meetsEdge [IsStrictOrderedRing K] [Planar (Extended K)]
    (hturn : Planar.TurnsExactly K) {polygon : Polygon K} (hproper : polygon.IsProper) {e : Edge K}
    (h : polygon.finite.meetsEdge e.finite = false) {p : Position K} (hp : e.passes p = true) :
    polygon.finite.covers p.finite = false := by
  unfold meetsEdge at h
  rw [Bool.or_eq_false_iff, Bool.or_eq_false_iff, List.any_eq_false] at h
  obtain ⟨⟨hrings, hstart⟩, -⟩ := h
  -- the piece of the edge up to the point stays on one side of every ring
  have hplace : polygon.finite.placeOf p.finite = polygon.finite.placeOf e.start.finite := by
    refine placeOf_congr fun ring hring => ?_
    obtain ⟨ring, hmem, rfl⟩ := List.mem_map.1 (rings_finite polygon ▸ hring)
    have hring : Path.meetsEdge (ring.map Position.finite) e.finite = false :=
      Bool.eq_false_of_not_eq_true (hrings _ hring)
    exact Path.placeOf_eq_of_isApart (s := ⟨e.start, p⟩) hturn (hproper.isClosed ring hmem)
      (hproper.length_ne_one ring hmem) fun f hf q hq =>
        Path.isApart_of_meetsEdge hturn hring hf q (Edge.passes_of_passes_piece hp hq)
  unfold covers at hstart ⊢
  rw [hplace]
  exact hstart

/-! ## Areal shapes -/

namespace Shape

/-- The point belongs to one of the polygons of an areal shape or to its boundary. -/
def covers {α : Type} [Scalar α] [Planar α] (s : Shape α) (p : Position α) : Bool :=
  (s.areas?.getD []).any (·.covers p)

/-- The shape is areal, its polygons are proper, and a rectangle has its corners in order. -/
structure IsAreal (s : Shape (Extended K)) (area : List (Polygon K)) : Prop where
  areas : s.areas? = some (area.map Polygon.finite)
  isProper : ∀ polygon ∈ area, polygon.IsProper
  ordered : ∀ low high, s = .rectangle low high → low.x ≤ high.x ∧ low.y ≤ high.y

theorem mem_iff_of_finite_eq_ofPaths {polygon : Polygon K} {path : Path (Extended K)}
    (h : polygon.finite = .ofPaths path []) (q : Position (Extended K)) :
    q ∈ polygon.exterior.map Position.finite ↔ q ∈ path := by
  have hexterior : polygon.exterior.map Position.finite = path.close := congrArg Polygon.exterior h
  rw [hexterior]
  exact ⟨Path.mem_of_mem_close, Path.mem_close⟩

theorem IsAreal.holds_exterior {s : Shape (Extended K)} {area : List (Polygon K)}
    (hs : s.IsAreal area) {b : Box K} (hbox : s.box? = some b.finite) {polygon : Polygon K}
    (hpolygon : polygon ∈ area) {q : Position K} (hq : q ∈ polygon.exterior) : b.Holds q := by
  have hareas := hs.areas
  have hsingle {P : Polygon (Extended K)} (h : some [P] = some (area.map Polygon.finite)) :
      polygon.finite = P := by
    have hmem : polygon.finite ∈ [P] := Option.some.inj h ▸ List.mem_map_of_mem hpolygon
    exact List.mem_singleton.1 hmem
  cases s with
  | polygon P =>
    obtain rfl := hsingle hareas
    change Path.box? (polygon.exterior.map Position.finite) = _ at hbox
    exact Path.holds_of_box?_finite hbox hq
  | multiPolygon Ps =>
    obtain rfl : Ps = area.map Polygon.finite := Option.some.inj hareas
    have hpath : ((area.map Polygon.finite).flatMap (·.exterior)) =
        (area.flatMap (·.exterior)).map Position.finite := by
      rw [List.flatMap_map, List.map_flatMap]
      rfl
    change Path.box? ((area.map Polygon.finite).flatMap (·.exterior)) = _ at hbox
    rw [hpath] at hbox
    exact Path.holds_of_box?_finite hbox (List.mem_flatMap.2 ⟨polygon, hpolygon, hq⟩)
  | rectangle low high =>
    obtain ⟨hx, hy⟩ := hs.ordered low high rfl
    obtain ⟨v, w⟩ := low
    obtain ⟨v', w'⟩ := high
    cases hbox
    rw [Extended.finite_le] at hx hy
    have hmem := (mem_iff_of_finite_eq_ofPaths (hsingle hareas) _).1 (List.mem_map_of_mem hq)
    simp only [List.mem_cons, List.not_mem_nil, or_false, Position.finite, Position.mk.injEq,
      Extended.finite.injEq] at hmem
    obtain ⟨hqx, hqy⟩ | ⟨hqx, hqy⟩ | ⟨hqx, hqy⟩ | ⟨hqx, hqy⟩ | ⟨hqx, hqy⟩ := hmem <;>
      constructor <;> simp [hqx, hqy, hx, hy]
  | triangle a b c =>
    have hmem (r : Position (Extended K)) :
        r ∈ polygon.exterior.map Position.finite ↔ r ∈ [a, b, c] := by
      rw [mem_iff_of_finite_eq_ofPaths (hsingle hareas)]
      simp only [List.mem_cons, List.not_mem_nil, or_false]
      tauto
    obtain ⟨path, hpath⟩ : ∃ path : Path K, [a, b, c] = path.map Position.finite := by
      refine Path.exists_eq_map_finite fun r hr => ?_
      obtain ⟨v, -, rfl⟩ := List.mem_map.1 ((hmem r).2 hr)
      rfl
    have hvertex : q.finite ∈ path.map Position.finite :=
      hpath ▸ (hmem _).1 (List.mem_map_of_mem hq)
    change Path.box? [a, b, c] = _ at hbox
    rw [hpath] at hbox
    exact Path.holds_of_box?_finite hbox
      ((List.mem_map_of_injective Position.finite_injective).1 hvertex)
  | point _ => cases hareas
  | multiPoint _ => cases hareas
  | segment _ _ => cases hareas
  | lineString _ => cases hareas
  | multiLineString _ => cases hareas
  | collection _ => cases hareas

section

variable [Planar (Extended K)]

theorem IsAreal.meetsEdge {s : Shape (Extended K)} {area : List (Polygon K)} (hs : s.IsAreal area)
    (e : Edge (Extended K)) : s.meetsEdge e = area.any (·.finite.meetsEdge e) := by
  have hareas := hs.areas
  have hany (ps : List (Polygon (Extended K))) (h : some ps = some (area.map Polygon.finite)) :
      ps.any (·.meetsEdge e) = area.any (·.finite.meetsEdge e) := by
    rw [Option.some.inj h, List.any_map]
    rfl
  cases s with
  | polygon P => exact (Bool.or_false _).symm.trans (hany [P] hareas)
  | multiPolygon Ps => exact hany Ps hareas
  | rectangle low high =>
    exact (Bool.or_false _).symm.trans (hany [rectanglePolygon low high] hareas)
  | triangle a b c => exact (Bool.or_false _).symm.trans (hany [trianglePolygon a b c] hareas)
  | point _ => cases hareas
  | multiPoint _ => cases hareas
  | segment _ _ => cases hareas
  | lineString _ => cases hareas
  | multiLineString _ => cases hareas
  | collection _ => cases hareas

theorem IsAreal.covers_iff {s : Shape (Extended K)} {area : List (Polygon K)} (hs : s.IsAreal area)
    (p : Position (Extended K)) :
    s.covers p = true ↔ ∃ polygon ∈ area, polygon.finite.covers p = true := by
  unfold covers
  rw [hs.areas, Option.getD_some, List.any_map, List.any_eq_true]
  rfl

variable [IsStrictOrderedRing K] (hturn : Planar.TurnsExactly K) {s : Shape (Extended K)}
  {area : List (Polygon K)} (hs : s.IsAreal area) {b : Box K} (hbox : s.box? = some b.finite)

include hturn hs hbox

theorem IsAreal.holds_of_covers {p : Position K} (hp : s.covers p.finite = true) : b.Holds p := by
  obtain ⟨polygon, hmem, hcovers⟩ := (hs.covers_iff _).1 hp
  exact Polygon.holds_of_covers hturn (hs.isProper polygon hmem)
    (fun _ => hs.holds_exterior hbox hmem) hcovers

/-- No point of a line that is not found to meet an areal shape belongs to the shape. -/
theorem IsAreal.covers_eq_false_of_meets {line : Path K}
    (h : Path.meets (line.map Position.finite) s = false) {p : Position K}
    (hp : line.passes p = true) : s.covers p.finite = false := by
  by_contra hcovers
  rw [Bool.not_eq_false] at hcovers
  obtain ⟨e, he, hpasses⟩ := List.any_eq_true.1 hp
  have hline : line ≠ [] := by
    rintro rfl
    cases he
  obtain ⟨c, hc⟩ := Path.exists_box? hline
  have hboxes : areApart (Path.box? (line.map Position.finite)) s.box? = false := by
    rw [Path.box?_finite, hc, hbox]
    exact areApart_eq_false (Path.holds_of_passes hc hp) (hs.holds_of_covers hturn hbox hcovers)
  unfold Path.meets at h
  rw [hboxes, Bool.not_false, Bool.true_and, Path.edgeList_finite, List.any_map,
    List.any_eq_false] at h
  have hedge := h e he
  rw [Function.comp_apply, hs.meetsEdge, Bool.not_eq_true, List.any_eq_false] at hedge
  obtain ⟨polygon, hmem, hpolygon⟩ := (hs.covers_iff _).1 hcovers
  have hfalse := Polygon.covers_eq_false_of_meetsEdge hturn (hs.isProper polygon hmem)
    (Bool.eq_false_of_not_eq_true (hedge polygon hmem)) hpasses
  rw [hpolygon] at hfalse
  cases hfalse

end

/-! ## Rectangles -/

theorem exterior_rectanglePolygon (low high : Position K) :
    (rectanglePolygon low high).exterior =
      [⟨high.x, low.y⟩, ⟨high.x, high.y⟩, ⟨low.x, high.y⟩, ⟨low.x, low.y⟩, ⟨high.x, low.y⟩] := by
  have hclosed : Path.isClosed (α := K)
      [⟨high.x, low.y⟩, ⟨high.x, high.y⟩, ⟨low.x, high.y⟩, ⟨low.x, low.y⟩, ⟨high.x, low.y⟩] =
        true := Position.beq_self (⟨high.x, low.y⟩ : Position K)
  exact Path.close_of_isClosed hclosed

theorem isProper_rectanglePolygon (low high : Position K) :
    (rectanglePolygon low high).IsProper := by
  have hrings : ∀ ring ∈ (rectanglePolygon low high).rings,
      ring = (rectanglePolygon low high).exterior := fun ring hring => List.mem_singleton.1 hring
  constructor <;> intro ring hring <;> rw [hrings ring hring, exterior_rectanglePolygon]
  · exact Position.beq_self (⟨high.x, low.y⟩ : Position K)
  · simp

section

variable {low high : Position K} (hx : low.x ≤ high.x) (hy : low.y ≤ high.y)

include hx hy

theorem isAreal_rectangle :
    (rectangle low.finite high.finite).IsAreal [rectanglePolygon low high] where
  areas := congrArg (some [·]) (Polygon.ofPaths_finite
    [⟨high.x, low.y⟩, ⟨high.x, high.y⟩, ⟨low.x, high.y⟩, ⟨low.x, low.y⟩, ⟨high.x, low.y⟩])
  isProper polygon hpolygon := List.mem_singleton.1 hpolygon ▸ isProper_rectanglePolygon low high
  ordered v w heq := by
    cases heq
    exact ⟨(Extended.finite_le ..).2 hx, (Extended.finite_le ..).2 hy⟩

end

variable {low high p : Position K} (hp : (⟨low.x, low.y, high.x, high.y⟩ : Box K).Holds p)

include hp

/-- The outline of a rectangle winds once around the points inside. -/
theorem windingSum_rectangle (hpasses : (rectanglePolygon low high).exterior.passes p = false) :
    (rectanglePolygon low high).exterior.windingSum p = 1 := by
  rw [exterior_rectanglePolygon] at hpasses ⊢
  have hright : p.x ≠ high.x := by
    rintro h
    have hedge : Edge.passes ⟨⟨high.x, low.y⟩, ⟨high.x, high.y⟩⟩ p = true := by
      rw [Edge.passes_iff]
      simp [h, hp.bottom, hp.top]
    rw [Path.passes_cons_cons, hedge] at hpasses
    cases hpasses
  have htop : p.y ≠ high.y := by
    rintro h
    have hedge : Edge.passes ⟨⟨high.x, high.y⟩, ⟨low.x, high.y⟩⟩ p = true := by
      rw [Edge.passes_iff]
      simp [h, hp.left, hp.right]
    rw [Path.passes_cons_cons, Path.passes_cons_cons, hedge, Bool.true_or, Bool.or_true] at hpasses
    cases hpasses
  have hrise : Edge.winding ⟨⟨high.x, low.y⟩, ⟨high.x, high.y⟩⟩ p = 1 := by
    rw [Edge.winding_of_vertical, if_pos (hp.right.lt_of_ne hright)]
    unfold Edge.reached
    rw [if_pos hp.bottom, if_neg (hp.top.lt_of_ne htop).not_ge]
    rfl
  have hfall : Edge.winding ⟨⟨low.x, high.y⟩, ⟨low.x, low.y⟩⟩ p = 0 := by
    rw [Edge.winding_of_vertical, if_neg hp.left.not_gt]
  have hlevel (x z y : K) : Edge.winding ⟨⟨x, y⟩, ⟨z, y⟩⟩ p = 0 := Edge.winding_of_horizontal rfl p
  change Edge.winding _ p + (Edge.winding _ p + (Edge.winding _ p + (Edge.winding _ p + 0))) = 1
  rw [hrise, hlevel, hfall, hlevel]
  rfl

/-- The region of a rectangle consists of the points between its corners. -/
theorem covers_rectangle [IsStrictOrderedRing K] [Planar (Extended K)]
    (hturn : Planar.TurnsExactly K) :
    (rectangle low.finite high.finite).covers p.finite = true := by
  have hareal := isAreal_rectangle (hp.left.trans hp.right) (hp.bottom.trans hp.top)
  have hproper := isProper_rectanglePolygon low high
  refine (hareal.covers_iff _).2 ⟨_, List.mem_singleton_self _, ?_⟩
  unfold Polygon.covers Polygon.placeOf
  cases hpasses : (rectanglePolygon low high).exterior.passes p with
  | true =>
    have hplace : (rectanglePolygon low high).finite.exterior.placeOf p.finite = .boundary :=
      Path.placeOf_of_passes hturn (hproper.isClosed _ List.mem_cons_self) hpasses
    rw [hplace]
    rfl
  | false =>
    have hplace : (rectanglePolygon low high).finite.exterior.placeOf p.finite = .interior := by
      refine (Path.placeOf_of_not_passes hturn (hproper.length_ne_one _ List.mem_cons_self)
        hpasses).trans ?_
      rw [windingSum_rectangle hp hpasses]
      rfl
    rw [hplace]
    rfl

end Shape

end Graticule
