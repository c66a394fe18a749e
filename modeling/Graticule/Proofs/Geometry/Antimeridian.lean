import Graticule.Proofs.Geometry.HalfPlane
import Graticule.Proofs.Grid.Cover

/-!
# What cutting at the antimeridian keeps

The set operations are a parameter of the cut.  At a point where they are those of the even-odd rule
a shape that is cut holds what it held before in the area that is kept, `holds_clip`.  Inside the
box that area consists of two half planes, so a point is lost only where both leave it out:
`chop_keeps_beside` says that this is between the two cut lines.  A system is cut only where it is
continuous: `isSmooth_iff_of_returns`.
-/

namespace Graticule

section

variable {α : Type} [Scalar α]

namespace Shape

mutual

/-- The point is one of the shape's points, lies on one of its lines, or belongs to its area under
the even-odd rule. -/
def holds (p : Position α) (shape : Shape α) : Bool :=
  match shape with
  | point q => q == p
  | multiPoint qs => qs.any (· == p)
  | collection members => memberHolds p members
  | shape =>
    match shape.areas?, shape.lines? with
    | some area, _ => Area.encloses area p
    | none, some paths => paths.any (·.passes p)
    | none, none => false

def memberHolds (p : Position α) : List (Shape α) → Bool
  | [] => false
  | s :: ss => holds p s || memberHolds p ss

end

theorem holds_ofPolygons (area : List (Polygon α)) (p : Position α) :
    (ofPolygons area).holds p = Area.encloses area p := by
  match area with
  | [] => rfl
  | [_] => rfl
  | _ :: _ :: _ => rfl

end Shape

variable [Planar α]

/-- At the point, the set operation on two areas follows the even-odd rule. -/
def Planar.IsExactAt (p : Position α) (op : SetOperation) (a b : List (Polygon α)) : Prop :=
  Area.encloses (Planar.combine op a b) p = op.holds (Area.encloses a p) (Area.encloses b p)

namespace Antimeridian

mutual

/-- At the point, cutting the parts of a shape with an area follows the even-odd rule. -/
def IsCutAt (p : Position α) (mask : List (Polygon α)) (shape : Shape α) : Prop :=
  match shape with
  | .point _ => inMask mask p = Area.encloses mask p
  | .multiPoint _ => inMask mask p = Area.encloses mask p
  | .collection members => AreCutAt p mask members
  | shape =>
    match shape.areas?, shape.lines? with
    | some area, _ => Planar.IsExactAt p .intersection area mask
    | none, some paths => (Planar.clip paths mask).any (·.passes p) =
        (paths.any (·.passes p) && Area.encloses mask p)
    | none, none => True

def AreCutAt (p : Position α) (mask : List (Polygon α)) : List (Shape α) → Prop
  | [] => True
  | s :: ss => IsCutAt p mask s ∧ AreCutAt p mask ss

end

end Antimeridian

end

namespace Antimeridian

open scoped Exact

section

variable {K : Type} [Field K] [LinearOrder K] [IsStrictOrderedRing K] [FloorRing K]
variable [Planar (Extended K)]

omit [IsStrictOrderedRing K] in
/-- A point is kept when it is the given one and that lies in the area. -/
theorem inMask_and_beq {p : Position K} {mask : List (Polygon (Extended K))}
    (h : inMask mask p.finite = Area.encloses mask p.finite) (q : Position (Extended K)) :
    (inMask mask q && q == p.finite) = (q == p.finite && Area.encloses mask p.finite) := by
  cases hq : q == p.finite with
  | false => rw [Bool.and_false, Bool.false_and]
  | true => rw [Position.eq_of_beq_finite hq, h, Bool.and_true, Bool.true_and]

omit [IsStrictOrderedRing K] in
mutual

/-- What a shape holds after it is cut is what it held before in the area. -/
theorem holds_clip {p : Position K} {mask : List (Polygon (Extended K))} :
    ∀ {shape : Shape (Extended K)}, IsCutAt p.finite mask shape →
      (clip mask shape).holds p.finite = (shape.holds p.finite && Area.encloses mask p.finite)
  | .point q, h => by
    have hq := inMask_and_beq h q
    change Shape.holds _ (if inMask mask q then .point q else .multiPoint []) = _
    cases hin : inMask mask q with
    | false =>
      rw [hin, Bool.false_and] at hq
      exact hq
    | true =>
      rw [hin, Bool.true_and] at hq
      exact hq
  | .multiPoint qs, h => by
    change (qs.filter (inMask mask)).any (· == p.finite) =
      (qs.any (· == p.finite) && Area.encloses mask p.finite)
    rw [List.any_filter]
    simp only [inMask_and_beq h]
    cases Area.encloses mask p.finite <;> simp
  | .collection members, h => memberHolds_clipMembers h
  | .polygon _, h => (Shape.holds_ofPolygons _ _).trans h
  | .rectangle _ _, h => (Shape.holds_ofPolygons _ _).trans h
  | .triangle _ _ _, h => (Shape.holds_ofPolygons _ _).trans h
  | .multiPolygon _, h => (Shape.holds_ofPolygons _ _).trans h
  | .segment _ _, h => h
  | .lineString _, h => h
  | .multiLineString _, h => h

theorem memberHolds_clipMembers {p : Position K} {mask : List (Polygon (Extended K))} :
    ∀ {members : List (Shape (Extended K))}, AreCutAt p.finite mask members →
      Shape.memberHolds p.finite (clipMembers mask members) =
        (Shape.memberHolds p.finite members && Area.encloses mask p.finite)
  | [], _ => (Bool.false_and _).symm
  | s :: ss, h => by
    have hs := holds_clip h.1
    have hss := memberHolds_clipMembers h.2
    change (Shape.holds _ (clip mask s) || Shape.memberHolds _ (clipMembers mask ss)) = _
    rw [hs, hss, ← Bool.and_or_distrib_right]
    rfl

end

end

/-- A cut line consists of finite points. -/
theorem exists_cutLine_eq (inverse : Position (Extended ℝ) → Position (Extended ℝ))
    (lon : Extended ℝ) : ∃ line : Path ℝ, cutLine inverse lon = line.map Position.finite := by
  refine Path.exists_eq_map_finite fun q hq => ?_
  exact (List.mem_filter.1 hq).2

section

variable [Planar (Extended ℝ)]

/-- Inside the box the kept area is what lies left of the first line or right of the second. -/
theorem encloses_keptArea {inverse : Position (Extended ℝ) → Position (Extended ℝ)} {b : Box ℝ}
    {p : Position ℝ} (hp : b.Surrounds p) {left right : Path ℝ} (hleft : left ≠ [])
    (hright : right ≠ [])
    (hleftLine : cutLine inverse (180 - seam) = left.map Position.finite)
    (hrightLine : cutLine inverse (-180 + seam) = right.map Position.finite)
    (hexact : Planar.IsExactAt p.finite .union
      [halfPlane (.finite b.left) (.finite b.bottom) (.finite b.top)
        (cutLine inverse (180 - seam))]
      [halfPlane (.finite b.right) (.finite b.bottom) (.finite b.top)
        (cutLine inverse (-180 + seam))]) :
    Area.encloses (keptArea inverse b.finite) p.finite =
      (!isBeyond b.bottom b.top left p || isBeyond b.bottom b.top right p) := by
  have hunion : Area.encloses (keptArea inverse b.finite) p.finite = _ := hexact
  rw [hunion, hleftLine, hrightLine, halfPlane_finite, halfPlane_finite, Area.encloses_singleton,
    Area.encloses_singleton, Polygon.encloses_finite, Polygon.encloses_finite,
    encloses_leftHalf hp hleft, encloses_rightHalf hp hright]
  rfl

theorem chop_cases (forward inverse : Position (Extended ℝ) → Position (Extended ℝ))
    (g : Geometry (Extended ℝ)) {box : Box (Extended ℝ)} (hbox : g.shape.box? = some box) :
    chop forward inverse g = g ∨
      chop forward inverse g = g.withShape (clip (keptArea inverse box) g.shape) := by
  unfold chop
  rw [hbox]
  dsimp only
  split_ifs
  · exact Or.inl rfl
  · exact Or.inl rfl
  · exact Or.inr rfl

end

/-- A point inside the box whose ray crosses the two prolonged lines equally often, up to an even
number, lies in exactly one of the half planes; cutting a geometry does not lose it.  This includes
the points on the edges, where the lower end of an edge counts and the upper one does not. -/
theorem chop_keeps_beside :
    (∀ (b : Box ℝ) (left right : Path ℝ) (p : Position ℝ), left ≠ [] → right ≠ [] →
      b.Surrounds p →
      (extension b.bottom b.top left).crossings p % 2 =
        (extension b.bottom b.top right).crossings p % 2 →
      (halfPlane b.left b.bottom b.top left).encloses p ≠
        (halfPlane b.right b.bottom b.top right).encloses p) ∧
    ∀ [Planar (Extended ℝ)] (forward inverse : Position (Extended ℝ) → Position (Extended ℝ))
      (g : Geometry (Extended ℝ)) (b : Box ℝ) (p : Position ℝ),
      cutLine inverse (180 - seam) ≠ [] → cutLine inverse (-180 + seam) ≠ [] →
      g.shape.box? = some b.finite → b.Surrounds p →
      (extension (.finite b.bottom) (.finite b.top)
          (cutLine inverse (180 - seam))).crossings p.finite % 2 =
        (extension (.finite b.bottom) (.finite b.top)
          (cutLine inverse (-180 + seam))).crossings p.finite % 2 →
      Planar.IsExactAt p.finite .union
        [halfPlane (.finite b.left) (.finite b.bottom) (.finite b.top)
          (cutLine inverse (180 - seam))]
        [halfPlane (.finite b.right) (.finite b.bottom) (.finite b.top)
          (cutLine inverse (-180 + seam))] →
      Area.encloses (keptArea inverse b.finite) p.finite = true ∧
        (IsCutAt p.finite (keptArea inverse b.finite) g.shape →
          (chop forward inverse g).shape.holds p.finite = g.shape.holds p.finite) := by
  constructor
  · intro b left right p hleft hright hp hparity
    have hbeyond : isBeyond b.bottom b.top left p = isBeyond b.bottom b.top right p := by
      unfold isBeyond
      rw [hparity]
    rw [encloses_leftHalf hp hleft, encloses_rightHalf hp hright, hbeyond]
    exact Bool.not_ne_self _
  · intro _ forward inverse g b p hleft hright hbox hp hparity hexact
    obtain ⟨left, hleftLine⟩ := exists_cutLine_eq inverse (180 - seam)
    obtain ⟨right, hrightLine⟩ := exists_cutLine_eq inverse (-180 + seam)
    have hbeyond : isBeyond b.bottom b.top left p = isBeyond b.bottom b.top right p := by
      rw [← isBeyond_finite, ← isBeyond_finite, ← hleftLine, ← hrightLine]
      unfold isBeyond
      rw [hparity]
    have hkept : Area.encloses (keptArea inverse b.finite) p.finite = true := by
      rw [encloses_keptArea hp (fun h => hleft (by rw [hleftLine, h]; rfl))
        (fun h => hright (by rw [hrightLine, h]; rfl)) hleftLine hrightLine hexact, hbeyond]
      exact Bool.not_or_self _
    refine ⟨hkept, fun hcut => ?_⟩
    -- a geometry that is left alone holds what it held
    rcases chop_cases forward inverse g hbox with hchop | hchop
    · rw [hchop]
    · rw [hchop]
      change (clip (keptArea inverse b.finite) g.shape).holds p.finite = _
      rw [holds_clip hcut, hkept, Bool.and_true]

section

open Extended (finite)

/-! ## Continuity across the antimeridian -/

/-- Where both points beside the antimeridian return to where they came from, only the gap between
them counts. -/
theorem isSmooth_iff_of_returns {forward inverse : Position (Extended ℝ) → Position (Extended ℝ)}
    {lat eps : ℝ} {west east : Position ℝ}
    (hwest : inverse (Position.finite ⟨180 - eps, lat⟩) = west.finite)
    (heast : inverse (Position.finite ⟨-180 + eps, lat⟩) = east.finite)
    (hfromWest : forward west.finite = Position.finite ⟨180 - eps, lat⟩)
    (hfromEast : forward east.finite = Position.finite ⟨-180 + eps, lat⟩) :
    isSmooth (finite lat) forward inverse (finite eps) = true ↔
      (west.x - east.x) ^ 2 + (west.y - east.y) ^ 2 ≤ 1 := by
  have hlon : (⟨180 - finite eps, finite lat⟩ : Position (Extended ℝ)) =
      Position.finite ⟨180 - eps, lat⟩ := by
    rw [Extended.ofNat_eq, Extended.finite_sub]
    rfl
  have hlon' : (⟨-180 + finite eps, finite lat⟩ : Position (Extended ℝ)) =
      Position.finite ⟨-180 + eps, lat⟩ := by
    rw [Extended.ofNat_eq, Extended.finite_neg, Extended.finite_add]
    rfl
  have hgap : (largestGapSquared : Extended ℝ) = finite 1 := Extended.one_eq
  have hbound : (2 * finite eps * finite eps : Extended ℝ) = finite (2 * eps * eps) := by
    rw [Extended.ofNat_eq, Extended.finite_mul, Extended.finite_mul]
  have hreturns (p : Position ℝ) : p.finite.distanceSquared p.finite ≤ finite (2 * eps * eps) := by
    rw [Position.distanceSquared_finite, Extended.finite_le, sub_self, sub_self]
    nlinarith [sq_nonneg eps]
  unfold isSmooth
  dsimp only
  rw [hlon, hlon', hwest, heast, hfromWest, hfromEast, hgap, hbound,
    Position.distanceSquared_finite west east, decide_eq_true (hreturns _),
    decide_eq_true (hreturns _), Bool.and_true, Bool.and_true, decide_eq_true_iff,
    Extended.finite_le]

/-! ## A rectangle across the antimeridian -/

theorem cutLatitudes_eq :
    (cutLatitudes : List (Extended ℝ)) = (List.range 181).map fun i : ℕ => finite (-90 + i : ℝ) := by
  refine List.map_congr_left fun i _ => ?_
  change (-(finite ((90 : ℕ) : ℝ)) + finite (i : ℝ) * finite ((1 : ℕ) : ℝ)) = _
  rw [Extended.finite_neg, Extended.finite_mul, Extended.finite_add, Nat.cast_one, mul_one]
  rfl

/-- A meridian that has a finite point at every latitude. -/
theorem cutLine_eq_map {inverse : Position (Extended ℝ) → Position (Extended ℝ)}
    {lon : Extended ℝ} (f : ℝ → Position ℝ)
    (h : ∀ lat, inverse ⟨lon, finite lat⟩ = (f lat).finite) :
    cutLine inverse lon =
      ((List.range 181).map fun i : ℕ => f (-90 + i)).map Position.finite := by
  have hline : (cutLatitudes.map fun lat => inverse ⟨lon, lat⟩) =
      ((List.range 181).map fun i : ℕ => f (-90 + i)).map Position.finite := by
    rw [cutLatitudes_eq, List.map_map, List.map_map]
    exact List.map_congr_left fun i _ => h (-90 + i)
  unfold cutLine
  rw [hline, List.filter_eq_self]
  intro q hq
  obtain ⟨p, -, rfl⟩ := List.mem_map.1 hq
  rfl

/-- Degrees east and west of the antimeridian. -/
noncomputable def fromSeam (q : Position (Extended ℝ)) : Position (Extended ℝ) :=
  ⟨if 0 < q.x then q.x - 180 else q.x + 180, q.y⟩

/-- Longitudes of degrees east and west of the antimeridian. -/
noncomputable def ofSeam (q : Position (Extended ℝ)) : Position (Extended ℝ) :=
  ⟨if q.x < 0 then q.x + 180 else q.x - 180, q.y⟩

noncomputable def verticalCut (x : ℝ) : Path ℝ := (List.range 181).map fun i : ℕ => ⟨x, -90 + i⟩

theorem seam_eq : (seam : Extended ℝ) = finite (1 / 10 ^ 9) := by
  unfold seam
  rw [Extended.decimal_eq, Nat.cast_one]

theorem fromSeam_west (lat : Extended ℝ) :
    fromSeam ⟨180 - seam, lat⟩ = ⟨finite (-(1 / 10 ^ 9)), lat⟩ := by
  have hlon : (180 - seam : Extended ℝ) = finite (180 - 1 / 10 ^ 9) := by
    rw [seam_eq, Extended.numeral_eq, Extended.finite_sub]
    norm_num
  have hpos : (0 : Extended ℝ) < finite (180 - 1 / 10 ^ 9) := by
    rw [Extended.numeral_eq, Extended.finite_lt]
    norm_num
  have hx : (finite (180 - 1 / 10 ^ 9) - 180 : Extended ℝ) = finite (-(1 / 10 ^ 9)) := by
    rw [Extended.numeral_eq, Extended.finite_sub]
    norm_num
  unfold fromSeam
  rw [hlon, if_pos hpos, hx]

theorem fromSeam_east (lat : Extended ℝ) :
    fromSeam ⟨-180 + seam, lat⟩ = ⟨finite (1 / 10 ^ 9), lat⟩ := by
  have hlon : (-180 + seam : Extended ℝ) = finite (-180 + 1 / 10 ^ 9) := by
    rw [seam_eq, Extended.numeral_eq, Extended.finite_neg, Extended.finite_add]
    norm_num
  have hneg : ¬ (0 : Extended ℝ) < finite (-180 + 1 / 10 ^ 9) := by
    rw [Extended.numeral_eq, Extended.finite_lt]
    norm_num
  have hx : (finite (-180 + 1 / 10 ^ 9) + 180 : Extended ℝ) = finite (1 / 10 ^ 9) := by
    rw [Extended.numeral_eq, Extended.finite_add]
    norm_num
  unfold fromSeam
  rw [hlon, if_neg hneg, hx]

theorem cutLine_fromSeam_west :
    cutLine fromSeam (180 - seam) = (verticalCut (-(1 / 10 ^ 9))).map Position.finite :=
  cutLine_eq_map (fun lat => ⟨-(1 / 10 ^ 9), lat⟩) fun _ => fromSeam_west _

theorem cutLine_fromSeam_east :
    cutLine fromSeam (-180 + seam) = (verticalCut (1 / 10 ^ 9)).map Position.finite :=
  cutLine_eq_map (fun lat => ⟨1 / 10 ^ 9, lat⟩) fun _ => fromSeam_east _

noncomputable def acrossSeam : Geometry (Extended ℝ) where
  shape := .rectangle (Position.finite ⟨-10, -5⟩) (Position.finite ⟨10, 5⟩)
  crs := none

/-- The set operations on that rectangle: its halves have no common point, and it meets the area
beside the seam in two rectangles. -/
@[reducible] noncomputable def besideSeam : Planar (Extended ℝ) where
  turn := Grid.turnsOnly.turn
  combine
    | .union, a, b => a ++ b
    | .intersection, _, _ =>
      [Shape.rectanglePolygon (Position.finite ⟨-10, -5⟩) (Position.finite ⟨-(1 / 10 ^ 9), 5⟩),
        Shape.rectanglePolygon (Position.finite ⟨1 / 10 ^ 9, -5⟩) (Position.finite ⟨10, 5⟩)]
    | _, _, _ => []
  clip _ _ := []

theorem verticalCut_ne_nil (x : ℝ) : verticalCut x ≠ [] := by
  unfold verticalCut
  simp

theorem isBeyond_verticalCut (x : ℝ) {p : Position ℝ} (hbottom : -5 < p.y) (htop : p.y < 5) :
    isBeyond (-5) 5 (verticalCut x) p = decide (x < p.x) := by
  refine isBeyond_of_vertical (verticalCut_ne_nil x) (fun q hq => ?_) hbottom htop
  obtain ⟨i, -, rfl⟩ := List.mem_map.1 hq
  rfl

theorem encloses_rectanglePolygon_finite (low high p : Position ℝ) :
    (Shape.rectanglePolygon low.finite high.finite).encloses p.finite =
      ((decide (low.y ≤ p.y) != decide (high.y ≤ p.y)) &&
        (decide (high.x < p.x) != decide (low.x < p.x))) := by
  have hfinite : Shape.rectanglePolygon low.finite high.finite =
      (Shape.rectanglePolygon low high).finite :=
    Polygon.ofPaths_finite
      [⟨high.x, low.y⟩, ⟨high.x, high.y⟩, ⟨low.x, high.y⟩, ⟨low.x, low.y⟩, ⟨high.x, low.y⟩]
  rw [hfinite, Polygon.encloses_finite, Shape.encloses_rectanglePolygon]

/-- What is east of the second line is not west of the first. -/
theorem lt_of_east {x : ℝ} (hx : 1 / 10 ^ 9 < x) : -(1 / 10 ^ 9) < x := by
  have hneg : (-(1 / 10 ^ 9) : ℝ) < 1 / 10 ^ 9 := by norm_num
  exact hneg.trans hx

section

variable {p : Position ℝ} (hp : (⟨-10, -5, 10, 5⟩ : Box ℝ).Surrounds p)

include hp

theorem isExactAt_besideSeam :
    @Planar.IsExactAt _ _ besideSeam p.finite .union
      [halfPlane (finite (-10)) (finite (-5)) (finite 5) (cutLine fromSeam (180 - seam))]
      [halfPlane (finite 10) (finite (-5)) (finite 5) (cutLine fromSeam (-180 + seam))] := by
  have hwest : (halfPlane (-10) (-5) 5 (verticalCut (-(1 / 10 ^ 9)))).encloses p =
      !decide (-(1 / 10 ^ 9) < p.x) := by
    rw [encloses_leftHalf hp (verticalCut_ne_nil _), isBeyond_verticalCut _ hp.bottom hp.top]
  have heast : (halfPlane 10 (-5) 5 (verticalCut (1 / 10 ^ 9))).encloses p =
      decide (1 / 10 ^ 9 < p.x) := by
    rw [encloses_rightHalf hp (verticalCut_ne_nil _), isBeyond_verticalCut _ hp.bottom hp.top]
  rw [cutLine_fromSeam_west, cutLine_fromSeam_east, halfPlane_finite, halfPlane_finite]
  change Area.encloses (_ :: [_]) _ = (Area.encloses [_] _ || Area.encloses [_] _)
  rw [Area.encloses_cons, Area.encloses_singleton, Area.encloses_singleton,
    Polygon.encloses_finite, Polygon.encloses_finite, hwest, heast]
  by_cases heast : 1 / 10 ^ 9 < p.x
  · rw [decide_eq_true heast, decide_eq_true (lt_of_east heast)]
    rfl
  · rw [decide_eq_false heast, Bool.bne_false, Bool.or_false]

theorem isCutAt_besideSeam :
    @IsCutAt _ _ besideSeam p.finite (@keptArea _ _ besideSeam fromSeam (Box.finite ⟨-10, -5, 10, 5⟩))
      acrossSeam.shape := by
  have hkept := @encloses_keptArea besideSeam fromSeam _ p hp _ _ (verticalCut_ne_nil _)
    (verticalCut_ne_nil _) cutLine_fromSeam_west cutLine_fromSeam_east (isExactAt_besideSeam hp)
  rw [isBeyond_verticalCut _ hp.bottom hp.top, isBeyond_verticalCut _ hp.bottom hp.top] at hkept
  change Area.encloses (_ :: [_]) _ = (Area.encloses [_] _ && Area.encloses _ _)
  rw [hkept, Area.encloses_cons, Area.encloses_singleton, Area.encloses_singleton,
    encloses_rectanglePolygon_finite, encloses_rectanglePolygon_finite,
    encloses_rectanglePolygon_finite, decide_eq_true hp.bottom.le,
    decide_eq_false (not_le.2 hp.top), decide_eq_true hp.left, decide_eq_false hp.right.not_gt]
  by_cases heast : 1 / 10 ^ 9 < p.x
  · rw [decide_eq_true heast, decide_eq_true (lt_of_east heast)]
    rfl
  · rw [decide_eq_false heast]
    cases decide (-(1 / 10 ^ 9) < p.x) <;> rfl

end

/-- The rectangle keeps a point five degrees east of the antimeridian. -/
theorem chop_keeps_beside_acrossSeam :
    ((halfPlane (-10) (-5) 5 (verticalCut (-(1 / 10 ^ 9)))).encloses (⟨5, 1⟩ : Position ℝ) ≠
      (halfPlane 10 (-5) 5 (verticalCut (1 / 10 ^ 9))).encloses ⟨5, 1⟩) ∧
    (@chop _ _ besideSeam ofSeam fromSeam acrossSeam).shape.holds (Position.finite ⟨5, 1⟩) =
      true := by
  have hp : (⟨-10, -5, 10, 5⟩ : Box ℝ).Surrounds ⟨5, 1⟩ := by
    constructor <;> norm_num
  have hwest : isBeyond (-5) 5 (verticalCut (-(1 / 10 ^ 9))) ⟨5, 1⟩ = true := by
    rw [isBeyond_verticalCut _ hp.bottom hp.top]
    norm_num
  have heast : isBeyond (-5) 5 (verticalCut (1 / 10 ^ 9)) ⟨5, 1⟩ = true := by
    rw [isBeyond_verticalCut _ hp.bottom hp.top]
    norm_num
  have hparity : (extension (-5) 5 (verticalCut (-(1 / 10 ^ 9)))).crossings ⟨5, 1⟩ % 2 =
      (extension (-5) 5 (verticalCut (1 / 10 ^ 9))).crossings ⟨5, 1⟩ % 2 :=
    (eq_of_beq hwest).trans (eq_of_beq heast).symm
  have hline (x : ℝ) : (verticalCut x).map Position.finite ≠ [] := fun h =>
    verticalCut_ne_nil x (List.map_eq_nil_iff.1 h)
  constructor
  · exact chop_keeps_beside.1 ⟨-10, -5, 10, 5⟩ _ _ ⟨5, 1⟩ (verticalCut_ne_nil _)
      (verticalCut_ne_nil _) hp hparity
  · have hholds := (@chop_keeps_beside.2 besideSeam ofSeam fromSeam acrossSeam
      ⟨-10, -5, 10, 5⟩ ⟨5, 1⟩ (by rw [cutLine_fromSeam_west]; exact hline _)
      (by rw [cutLine_fromSeam_east]; exact hline _) rfl hp
      (by
        rw [cutLine_fromSeam_west, cutLine_fromSeam_east, extension_finite, extension_finite,
          Path.crossings_finite, Path.crossings_finite]
        exact hparity)
      (isExactAt_besideSeam hp)).2 (isCutAt_besideSeam hp)
    rw [hholds]
    change (Shape.rectanglePolygon _ _).encloses _ = true
    rw [encloses_rectanglePolygon_finite]
    norm_num

end

end Antimeridian

end Graticule
