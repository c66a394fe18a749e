import Graticule.Proofs.Geometry.Border
import Graticule.Proofs.Planar.Region

/-!
# Geometries that do not reach the antimeridian

A geometry is left alone when it does not meet the first cut line.  The line runs from sample to
sample, but the half plane that cuts is bounded by the line with its ends prolonged: a geometry that
meets only a prolongation lies on both sides of the half plane's border and is left alone all the
same.  `skipped_iff` says that this is the only exception: a connected areal geometry that does not
meet the line lies on one side of the border unless it meets a prolongation.
-/

namespace Graticule

open scoped Exact

/-- The points of the plane in the region of an areal shape. -/
def Shape.region [Planar (Extended ℝ)] (s : Shape (Extended ℝ)) : Set (ℝ × ℝ) :=
  {q | s.covers (Position.finite ⟨q.1, q.2⟩) = true}

namespace Antimeridian

theorem chop_of_not_meets [Planar (Extended ℝ)]
    (forward : Position (Extended ℝ) → Position (Extended ℝ))
    {inverse : Position (Extended ℝ) → Position (Extended ℝ)} {g : Geometry (Extended ℝ)}
    (h : (cutLine inverse (180 - seam)).meets g.shape = false) : chop forward inverse g = g := by
  unfold chop
  rw [h]
  cases g.shape.box? with
  | none => rfl
  | some box => exact ite_self _

/-- A connected areal geometry that does not meet the cut line is left alone.  It lies on one side of
the prolonged line, the border of the half plane, exactly when none of its points is on a
prolongation; one that reaches a prolongation from inside has points on both sides. -/
theorem skipped_iff [Planar (Extended ℝ)] (hturn : Planar.TurnsExactly ℝ)
    (forward inverse : Position (Extended ℝ) → Position (Extended ℝ)) (g : Geometry (Extended ℝ))
    {area : List (Polygon ℝ)} (hareal : g.shape.IsAreal area) {b : Box ℝ}
    (hbox : g.shape.box? = some b.finite) (hconnected : IsPreconnected g.shape.region)
    {line : Path ℝ} (hcut : cutLine inverse (180 - seam) = line.map Position.finite)
    (hne : line ≠ []) (hline : line.IsAscending)
    (hmeets : (cutLine inverse (180 - seam)).meets g.shape = false) :
    chop forward inverse g = g ∧
      (((∀ p : Position ℝ, g.shape.covers p.finite = true →
            p.IsLeftOf (extension b.bottom b.top line)) ∨
          ∀ p : Position ℝ, g.shape.covers p.finite = true →
            p.IsRightOf (extension b.bottom b.top line)) ↔
        ∀ p : Position ℝ, g.shape.covers p.finite = true → ¬ OnProlongation line p) ∧
      (∀ q ∈ interior g.shape.region, OnProlongation line ⟨q.1, q.2⟩ →
        (∃ p : Position ℝ, g.shape.covers p.finite = true ∧
            p.IsLeftOf (extension b.bottom b.top line)) ∧
          ∃ p : Position ℝ, g.shape.covers p.finite = true ∧
            p.IsRightOf (extension b.bottom b.top line)) ∧
      ∀ p : Position ℝ, b.Surrounds p →
        ((halfPlane (.finite b.left) (.finite b.bottom) (.finite b.top)
            (cutLine inverse (180 - seam))).encloses p.finite = true ↔
          ¬ p.IsRightOf (extension b.bottom b.top line)) := by
  have hheight {p : Position ℝ} (hp : g.shape.covers p.finite = true) :
      b.bottom ≤ p.y ∧ p.y ≤ b.top :=
    have hholds := hareal.holds_of_covers hturn hbox hp
    ⟨hholds.bottom, hholds.top⟩
  have hleft {p : Position ℝ} (hp : g.shape.covers p.finite = true) :=
    isLeftOf_extension_iff (p := p) hne hline (hheight hp).1 (hheight hp).2
  have hright {p : Position ℝ} (hp : g.shape.covers p.finite = true) :=
    isRightOf_extension_iff (p := p) hne hline (hheight hp).1 (hheight hp).2
  refine ⟨chop_of_not_meets forward hmeets, ⟨?_, ?_⟩, ?_, ?_⟩
  · intro hsides p hp hon
    have hx : p.x = line.abscissaAt p.y := (eq_abscissaAt_iff hne hline).2 (Or.inr hon)
    rcases hsides with hsides | hsides
    · exact ((hleft hp).1 (hsides p hp)).ne hx
    · exact ((hright hp).1 (hsides p hp)).ne' hx
  · -- off the line and its prolongations the connected region does not touch the graph
    intro hoff
    have hgraph : Continuous fun q : ℝ × ℝ => line.abscissaAt q.2 :=
      hline.continuous_abscissaAt.comp continuous_snd
    have hne' : ∀ q ∈ g.shape.region, q.1 ≠ line.abscissaAt q.2 := by
      intro q hq hx
      rcases (eq_abscissaAt_iff (p := ⟨q.1, q.2⟩) hne hline).1 hx with hpasses | hon
      · rw [hcut] at hmeets
        have hout := hareal.covers_eq_false_of_meets hturn hbox hmeets hpasses
        exact Bool.false_ne_true (hout.symm.trans hq)
      · exact hoff _ hq hon
    rcases forall_lt_or_forall_lt hconnected continuous_fst hgraph hne' with hlt | hlt
    · exact Or.inl fun p hp => (hleft hp).2 (hlt (p.x, p.y) hp)
    · exact Or.inr fun p hp => (hright hp).2 (hlt (p.x, p.y) hp)
  · intro q hq hon
    obtain ⟨⟨x, hx, hlt⟩, z, hz, hgt⟩ := exists_sides_of_interior hne hline hq hon
    exact ⟨⟨⟨x, q.2⟩, hx, (hleft hx).2 hlt⟩, ⟨z, q.2⟩, hz, (hright hz).2 hgt⟩
  · intro p hp
    rw [hcut]
    exact encloses_leftHalf_iff hne hline hp

/-! ## Rectangles near a pole -/

section

open Extended (finite)

theorem turnsExactly_turnsOnly : @Planar.TurnsExactly ℝ _ _ _ Grid.turnsOnly := by
  intro p q r
  have harea : (q.finite.minus p.finite).cross (r.finite.minus q.finite) =
      finite ((q.minus p).cross (r.minus p)) := by
    simp only [Position.minus, Position.cross, Position.finite, Extended.finite_sub,
      Extended.finite_mul]
    ring_nf
  change (if 0 < (q.finite.minus p.finite).cross (r.finite.minus q.finite) then Turn.left
    else if (q.finite.minus p.finite).cross (r.finite.minus q.finite) < 0 then .right
    else .straight) = _
  rw [harea]
  simp only [Extended.zero_eq, Extended.finite_lt]
  rfl

/-- Degrees east and west of the antimeridian, where the poles are at infinity. -/
noncomputable def fromSeamBetweenPoles (q : Position (Extended ℝ)) : Position (Extended ℝ) :=
  ⟨(fromSeam q).x,
    if q.y ≤ finite (-90) then .infinite true
    else if finite 90 ≤ q.y then .infinite false else q.y⟩

noncomputable def openCut (x : ℝ) : Path ℝ := (List.range 179).map fun i : ℕ => ⟨x, -89 + i⟩

theorem fromSeamBetweenPoles_eq {lat : ℝ} (hlower : -90 < lat) (hupper : lat < 90)
    (x : Extended ℝ) : fromSeamBetweenPoles ⟨x, finite lat⟩ = fromSeam ⟨x, finite lat⟩ := by
  unfold fromSeamBetweenPoles
  rw [if_neg, if_neg]
  · rfl
  · rw [Extended.finite_le]
    exact hupper.not_ge
  · rw [Extended.finite_le]
    exact hlower.not_ge

theorem isFinite_fromSeamBetweenPoles {lat : ℝ} (h : lat ≤ -90 ∨ 90 ≤ lat) (x : Extended ℝ) :
    (fromSeamBetweenPoles ⟨x, finite lat⟩).isFinite = false := by
  have hy : Scalar.isFinite (fromSeamBetweenPoles ⟨x, finite lat⟩).y = false := by
    unfold fromSeamBetweenPoles
    dsimp only
    simp only [Extended.finite_le]
    rcases h with h | h
    · rw [if_pos h]
      rfl
    · rw [if_pos h]
      split_ifs <;> rfl
  unfold Position.isFinite
  rw [hy, Bool.and_false]

theorem cutLine_fromSeamBetweenPoles :
    cutLine fromSeamBetweenPoles (180 - seam) =
      (openCut (-(1 / 10 ^ 9))).map Position.finite := by
  have hrange : List.range 181 = 0 :: ((List.range 179).map (· + 1) ++ [180]) := by decide +kernel
  have hbetween : ((List.range 179).map fun i : ℕ =>
      fromSeamBetweenPoles ⟨180 - seam, finite (-90 + (i + 1 : ℕ))⟩) =
        (openCut (-(1 / 10 ^ 9))).map Position.finite := by
    unfold openCut
    rw [List.map_map]
    refine List.map_congr_left fun i hi => ?_
    have hlt : (i : ℝ) < 179 := by exact_mod_cast List.mem_range.1 hi
    have hnonneg : (0 : ℝ) ≤ i := Nat.cast_nonneg i
    have hlat : (-90 + (i + 1 : ℕ) : ℝ) = -89 + i := by
      push_cast
      ring
    rw [hlat, fromSeamBetweenPoles_eq (by linarith) (by linarith), fromSeam_west]
    rfl
  unfold cutLine
  rw [cutLatitudes_eq, hrange, List.map_map, List.map_cons, List.map_append, List.map_map]
  change List.filter _ (fromSeamBetweenPoles ⟨180 - seam, finite (-90 + (0 : ℕ))⟩ ::
    (((List.range 179).map fun i : ℕ =>
      fromSeamBetweenPoles ⟨180 - seam, finite (-90 + (i + 1 : ℕ))⟩) ++
        [fromSeamBetweenPoles ⟨180 - seam, finite (-90 + (180 : ℕ))⟩])) = _
  rw [hbetween, List.filter_cons, isFinite_fromSeamBetweenPoles (Or.inl (by norm_num)),
    List.filter_append, List.filter_cons, isFinite_fromSeamBetweenPoles (Or.inr (by norm_num))]
  -- the samples between the poles stay
  have hfilter : ((openCut (-(1 / 10 ^ 9))).map Position.finite).filter (·.isFinite) =
      (openCut (-(1 / 10 ^ 9))).map Position.finite :=
    List.filter_eq_self.2 fun q hq => by
      obtain ⟨p, -, rfl⟩ := List.mem_map.1 hq
      rfl
  rw [hfilter]
  exact List.append_nil _

theorem isAscending_openCut (x : ℝ) : (openCut x).IsAscending := by
  refine List.pairwise_map.2 (List.pairwise_lt_range.imp fun hlt => ?_)
  have hcast := Nat.cast_lt (α := ℝ).2 hlt
  dsimp only
  linarith

noncomputable def polarRectangle (left right : ℝ) : Geometry (Extended ℝ) where
  shape := .rectangle (Position.finite ⟨left, 89 + 1 / 4⟩) (Position.finite ⟨right, 89 + 3 / 4⟩)
  crs := none

section

variable {left right : ℝ} (h : left ≤ right)

include h

theorem isAreal_polarRectangle :
    (polarRectangle left right).shape.IsAreal
      [Shape.rectanglePolygon ⟨left, 89 + 1 / 4⟩ ⟨right, 89 + 3 / 4⟩] :=
  Shape.isAreal_rectangle h (by norm_num)

theorem covers_polarRectangle_iff (p : Position ℝ) :
    @Shape.covers _ _ Grid.turnsOnly (polarRectangle left right).shape p.finite = true ↔
      (left ≤ p.x ∧ p.x ≤ right) ∧ 89 + 1 / 4 ≤ p.y ∧ p.y ≤ 89 + 3 / 4 := by
  constructor
  · intro hp
    have hholds := @Shape.IsAreal.holds_of_covers _ _ _ _ Grid.turnsOnly _ turnsExactly_turnsOnly _ _
      (isAreal_polarRectangle h) ⟨left, 89 + 1 / 4, right, 89 + 3 / 4⟩ rfl _ hp
    exact ⟨⟨hholds.left, hholds.right⟩, hholds.bottom, hholds.top⟩
  · rintro ⟨⟨hl, hr⟩, hb, ht⟩
    exact @Shape.covers_rectangle _ _ _ _ ⟨left, 89 + 1 / 4⟩ ⟨right, 89 + 3 / 4⟩ p
      ⟨hl, hr, hb, ht⟩ _ Grid.turnsOnly turnsExactly_turnsOnly

theorem isPreconnected_polarRectangle :
    IsPreconnected (@Shape.region Grid.turnsOnly (polarRectangle left right).shape) := by
  have hregion : @Shape.region Grid.turnsOnly (polarRectangle left right).shape =
      Set.Icc left right ×ˢ Set.Icc (89 + 1 / 4) (89 + 3 / 4) := by
    ext q
    exact covers_polarRectangle_iff h ⟨q.1, q.2⟩
  rw [hregion]
  exact isPreconnected_Icc.prod isPreconnected_Icc

end

theorem eq_of_mem_openCut {x : ℝ} {q : Position ℝ} (hq : q ∈ openCut x) : q.x = x := by
  obtain ⟨i, -, rfl⟩ := List.mem_map.1 hq
  rfl

theorem getLast?_openCut (x : ℝ) : (openCut x).getLast? = some ⟨x, 89⟩ := by
  have hrange : (List.range 179).getLast? = some 178 := by decide +kernel
  unfold openCut
  rw [List.getLast?_map, hrange]
  norm_num

theorem openCut_ne_nil (x : ℝ) : openCut x ≠ [] := by
  unfold openCut
  simp

/-- The cut line ends below the rectangle. -/
theorem meets_polarRectangle (left right : ℝ) :
    @Path.meets _ _ Grid.turnsOnly (cutLine fromSeamBetweenPoles (180 - seam))
      (polarRectangle left right).shape = false := by
  obtain ⟨b, hb⟩ := Path.exists_box? (openCut_ne_nil (-(1 / 10 ^ 9)))
  obtain ⟨q, hq, htop⟩ := Path.exists_eq_top hb
  obtain ⟨i, hi, rfl⟩ := List.mem_map.1 hq
  have hlt : (i : ℝ) < 179 := by exact_mod_cast List.mem_range.1 hi
  have hbelow : b.top < 89 + 1 / 4 := by
    have hle : (i : ℝ) ≤ 178 := by exact_mod_cast Nat.lt_succ_iff.1 (List.mem_range.1 hi)
    rw [← htop]
    dsimp only
    linarith
  have hboxes : areApart (Path.box? (cutLine fromSeamBetweenPoles (180 - seam)))
      (polarRectangle left right).shape.box? = true := by
    rw [cutLine_fromSeamBetweenPoles, Path.box?_finite, hb]
    change (!Box.overlaps b.finite ⟨finite left, finite (89 + 1 / 4), _, _⟩) = true
    unfold Box.overlaps Box.finite
    simp only [Extended.finite_lt, decide_eq_true hbelow, Bool.or_true, Bool.true_or, Bool.not_true,
      Bool.not_false]
  unfold Path.meets
  rw [hboxes]
  rfl

theorem ofSeam_finite {x : ℝ} (lat : Extended ℝ) :
    ofSeam ⟨finite x, lat⟩ = ⟨finite (if x < 0 then x + 180 else x - 180), lat⟩ := by
  unfold ofSeam
  simp only [Extended.zero_eq, Extended.finite_lt, Extended.ofNat_eq, Extended.finite_add,
    Extended.finite_sub]
  split_ifs <;> rfl

theorem isSmooth_polarRectangle (left right : ℝ) :
    isSmooth (ofSeam (Box.finite ⟨left, 89 + 1 / 4, right, 89 + 3 / 4⟩).centre).y ofSeam
      fromSeamBetweenPoles seam = true := by
  have hlat : (ofSeam (Box.finite ⟨left, 89 + 1 / 4, right, 89 + 3 / 4⟩).centre).y =
      finite (89 + 1 / 2) := by
    change (finite (89 + 1 / 4) + finite (89 + 3 / 4)) / (2 : Extended ℝ) = _
    rw [Extended.ofNat_eq, Extended.finite_add, Extended.finite_div _ two_ne_zero]
    norm_num
  have hwest : fromSeamBetweenPoles (Position.finite ⟨180 - 1 / 10 ^ 9, 89 + 1 / 2⟩) =
      Position.finite ⟨-(1 / 10 ^ 9), 89 + 1 / 2⟩ := by
    have h := (fromSeamBetweenPoles_eq (by norm_num) (by norm_num) _).trans
      (fromSeam_west (finite (89 + 1 / 2)))
    rwa [seam_eq, Extended.ofNat_eq, Extended.finite_sub] at h
  have heast : fromSeamBetweenPoles (Position.finite ⟨-180 + 1 / 10 ^ 9, 89 + 1 / 2⟩) =
      Position.finite ⟨1 / 10 ^ 9, 89 + 1 / 2⟩ := by
    have h := (fromSeamBetweenPoles_eq (by norm_num) (by norm_num) _).trans
      (fromSeam_east (finite (89 + 1 / 2)))
    rwa [seam_eq, Extended.ofNat_eq, Extended.finite_neg, Extended.finite_add] at h
  have hfromWest : ofSeam (Position.finite ⟨-(1 / 10 ^ 9), 89 + 1 / 2⟩) =
      Position.finite ⟨180 - 1 / 10 ^ 9, 89 + 1 / 2⟩ := by
    refine (ofSeam_finite _).trans ?_
    rw [if_pos (by norm_num), neg_add_eq_sub]
    rfl
  have hfromEast : ofSeam (Position.finite ⟨1 / 10 ^ 9, 89 + 1 / 2⟩) =
      Position.finite ⟨-180 + 1 / 10 ^ 9, 89 + 1 / 2⟩ := by
    refine (ofSeam_finite _).trans ?_
    rw [if_neg (by norm_num), sub_eq_neg_add]
    rfl
  rw [hlat, seam_eq, isSmooth_iff_of_returns hwest heast hfromWest hfromEast]
  norm_num

/-- A rectangle beside the antimeridian lies on one side, though it is beyond the last sample. -/
theorem skipped_iff_besidePole :
    @chop _ _ Grid.turnsOnly ofSeam fromSeamBetweenPoles (polarRectangle 5 10) =
        polarRectangle 5 10 ∧
      ((∀ p : Position ℝ, @Shape.covers _ _ Grid.turnsOnly (polarRectangle 5 10).shape p.finite =
            true → p.IsLeftOf (extension (89 + 1 / 4) (89 + 3 / 4) (openCut (-(1 / 10 ^ 9))))) ∨
        ∀ p : Position ℝ, @Shape.covers _ _ Grid.turnsOnly (polarRectangle 5 10).shape p.finite =
            true → p.IsRightOf (extension (89 + 1 / 4) (89 + 3 / 4) (openCut (-(1 / 10 ^ 9))))) := by
  have hrange : (5 : ℝ) ≤ 10 := by norm_num
  obtain ⟨hchop, hsides, -⟩ := @skipped_iff Grid.turnsOnly turnsExactly_turnsOnly ofSeam
    fromSeamBetweenPoles (polarRectangle 5 10) _ (isAreal_polarRectangle hrange)
    ⟨5, 89 + 1 / 4, 10, 89 + 3 / 4⟩ rfl (isPreconnected_polarRectangle hrange) _
    cutLine_fromSeamBetweenPoles (openCut_ne_nil _) (isAscending_openCut _)
    (meets_polarRectangle 5 10)
  refine ⟨hchop, hsides.2 fun p hp hon => ?_⟩
  have hx : p.x = -(1 / 10 ^ 9) := by
    obtain ⟨q, hq, hx, -⟩ | ⟨q, hq, hx, -⟩ := hon
    · rw [hx, eq_of_mem_openCut (List.mem_of_head? hq)]
    · rw [hx, eq_of_mem_openCut (List.mem_of_getLast? hq)]
  have hleft := ((covers_polarRectangle_iff hrange p).1 hp).1.1
  rw [hx] at hleft
  norm_num at hleft

/-- The geometry is left alone, and yet it has points on both sides of the border: between the last
sample and the pole. -/
theorem not_skipped_whole :
    ¬ ∀ [Planar (Extended ℝ)] (forward inverse : Position (Extended ℝ) → Position (Extended ℝ))
      (g : Geometry (Extended ℝ)) (area : List (Polygon ℝ)) (b : Box ℝ) (line : Path ℝ),
      Planar.TurnsExactly ℝ → isSmooth (forward b.finite.centre).y forward inverse seam = true →
      g.shape.IsAreal area → g.shape.box? = some b.finite → IsPreconnected g.shape.region →
      cutLine inverse (180 - seam) = line.map Position.finite → line ≠ [] → line.IsAscending →
      (cutLine inverse (180 - seam)).meets g.shape = false →
      (∀ p : Position ℝ, g.shape.covers p.finite = true →
          ¬ p.IsRightOf (extension b.bottom b.top line)) ∨
        ∀ p : Position ℝ, g.shape.covers p.finite = true →
          ¬ p.IsLeftOf (extension b.bottom b.top line) := by
  intro h
  have hrange : (-10 : ℝ) ≤ 10 := by norm_num
  have hside := @h Grid.turnsOnly ofSeam fromSeamBetweenPoles (polarRectangle (-10) 10) _
    ⟨-10, 89 + 1 / 4, 10, 89 + 3 / 4⟩ _ turnsExactly_turnsOnly (isSmooth_polarRectangle (-10) 10)
    (isAreal_polarRectangle hrange) rfl (isPreconnected_polarRectangle hrange)
    cutLine_fromSeamBetweenPoles (openCut_ne_nil _) (isAscending_openCut _)
    (meets_polarRectangle (-10) 10)
  have hpasses : (extension (89 + 1 / 4) (89 + 3 / 4) (openCut (-(1 / 10 ^ 9)))).passes
      ⟨-(1 / 10 ^ 9), 89 + 1 / 2⟩ = true := by
    refine (passes_extension_iff (openCut_ne_nil _) (by norm_num) (by norm_num)).2 (Or.inr ?_)
    exact Or.inr ⟨_, getLast?_openCut _, rfl, by norm_num⟩
  have hcovers {x : ℝ} (hx : -10 ≤ x ∧ x ≤ 10) := (covers_polarRectangle_iff hrange
    ⟨x, 89 + 1 / 2⟩).2 ⟨hx, by norm_num, by norm_num⟩
  rcases hside with hside | hside
  · exact hside _ (hcovers (x := 5) (by norm_num)) ⟨_, hpasses, by norm_num⟩
  · exact hside _ (hcovers (x := -5) (by norm_num)) ⟨_, hpasses, by norm_num⟩

end

end Antimeridian

end Graticule
