import Graticule.Proofs.Except
import Graticule.Proofs.Grid.Cover

/-!
# Grids recovered from their footprints

The footprint of a grid, with the pixel sizes and the alignment of the grid, gives that grid back:
`ofGeometry_extent_eq`.  So does the footprint of a grid made for a geometry with the sizes and the
alignment it was made with, also when the alignment is a whole pixel, which the grid itself reports
as zero.

Both follow from `ofGeometry_extent_of_hasPixels`, which needs an offset that the origin of the grid
keeps up to whole pixels.
-/

namespace Graticule.Grid

open scoped Exact
open Extended (finite)

section

variable {K : Type} [Field K] [LinearOrder K] [IsStrictOrderedRing K] [FloorRing K]

theorem eq_of_parts {α : Type} [Scalar α] {g h : Grid α} (hwidth : g.width = h.width)
    (hheight : g.height = h.height) (haffine : g.affine = h.affine) (hcrs : g.crs = h.crs) :
    g = h := by
  cases g
  cases h
  simp_all

omit [IsStrictOrderedRing K] in
theorem checkPixels_of_hasPixels {resolution alignment : AxisPair (Extended K)}
    (res off : AxisPair K) (hy : HasPixels resolution.y alignment.y res.y off.y)
    (hx : HasPixels resolution.x alignment.x res.x off.x) :
    checkPixels resolution alignment = .ok () := by
  obtain ⟨hcheck, -⟩ | ⟨-, hnot⟩ := checkPixels_cases resolution alignment
  · exact hcheck
  · exact absurd ⟨⟨_, _, hy⟩, _, _, hx⟩ hnot

/-- The box around the footprint of a grid is covered by that grid. -/
theorem ofBox_footprint {g : Grid (Extended K)} {t : Affine K} (ht : g.affine = t.finite)
    {resolution alignment : AxisPair (Extended K)} {off : AxisPair K}
    (hy : HasPixels resolution.y alignment.y t.e off.y)
    (hx : HasPixels resolution.x alignment.x t.a off.x) (hwidth : 0 < g.width)
    (hheight : 0 < g.height) (hc : ∃ n : ℤ, t.c = off.x + n * |t.a|)
    (hf : ∃ n : ℤ, t.f = off.y + n * |t.e|) :
    ofBox (Box.finite ⟨min t.c (t.c + g.width * t.a), min t.f (t.f + g.height * t.e),
      max t.c (t.c + g.width * t.a), max t.f (t.f + g.height * t.e)⟩) resolution alignment g.crs =
        .ok g := by
  have haligned : t.isAxisAligned = true := by
    rw [← Affine.isAxisAligned_finite, ← ht]
    exact g.axisAligned
  obtain ⟨hb, hd⟩ := (Affine.isAxisAligned_iff t).1 haligned
  have hcolumns := PixelAxis.cover_whole off.x hx.ne_zero hwidth hc
  have hrows := PixelAxis.cover_whole off.y hy.ne_zero hheight hf
  obtain ⟨made, hmade, hcrs, hmadeWidth, hmadeHeight, haffine⟩ := @exists_ofBox_eq K _ _ _
    ⟨min t.c (t.c + g.width * t.a), min t.f (t.f + g.height * t.e),
      max t.c (t.c + g.width * t.a), max t.f (t.f + g.height * t.e)⟩
    resolution alignment ⟨t.e, t.a⟩ off g.crs hy hx
  rw [hcolumns] at hmadeWidth haffine
  rw [hrows] at hmadeHeight haffine
  have hself : made = g := by
    apply eq_of_parts hmadeWidth hmadeHeight _ hcrs
    rw [haffine, ht]
    congr 1
    exact Affine.ext rfl hb.symm rfl hd.symm rfl rfl
  rw [hmade, hself]

theorem of_make_eq_ok {α : Type} [Scalar α] {width height : ℕ} {t : Affine α} {crs : Crs α}
    {g : Grid α} (hg : make width height t crs = .ok g) :
    g.width = width ∧ g.height = height ∧ g.affine = t := by
  unfold make at hg
  split_ifs at hg
  cases hg
  exact ⟨rfl, rfl, rfl⟩

omit [IsStrictOrderedRing K] in
/-- The map of a grid that is made at any origin, finite or not. -/
theorem translation_mul_scale_finite (x y : Extended K) (sx sy : K) :
    (Affine.translation x y * Affine.scale (finite sx) (finite sy) : Affine (Extended K)) =
      ⟨finite sx, finite 0, finite 0 + x, finite 0, finite sy, finite 0 + y⟩ := by
  have hzero : (0 : Extended K) = finite 0 := by rw [Extended.numeral_eq, Nat.cast_zero]
  have hone : (1 : Extended K) = finite 1 := by rw [Extended.numeral_eq, Nat.cast_one]
  change Affine.mul _ _ = _
  simp only [Affine.mul, Affine.translation, Affine.scale, hzero, hone, Extended.finite_mul,
    Extended.finite_add, mul_zero, zero_mul, one_mul, add_zero, zero_add]

/-- What a grid made for a box of any sides has, when its map is finite. -/
theorem of_ofBox_eq_ok {b : Box (Extended K)} {resolution alignment : AxisPair (Extended K)}
    (res off : AxisPair K) {crs : Crs (Extended K)} {g : Grid (Extended K)} {t : Affine K}
    (hy : HasPixels resolution.y alignment.y res.y off.y)
    (hx : HasPixels resolution.x alignment.x res.x off.x)
    (hg : ofBox b resolution alignment crs = .ok g) (ht : g.affine = t.finite) :
    0 < g.width ∧ 0 < g.height ∧ t.a = res.x ∧ t.e = res.y ∧
      (∃ n : ℤ, t.c = off.x + n * |res.x|) ∧ ∃ n : ℤ, t.f = off.y + n * |res.y| := by
  obtain ⟨sizeY, sizeX⟩ := resolution
  obtain ⟨offsetY, offsetX⟩ := alignment
  obtain ⟨rfl, rfl, hresY, -, -⟩ := hy
  obtain ⟨rfl, rfl, hresX, -, -⟩ := hx
  change make (PixelAxis.cover b.left b.right (finite res.x) (finite off.x)).2
    (PixelAxis.cover b.bottom b.top (finite res.y) (finite off.y)).2
    (.translation (PixelAxis.cover b.left b.right (finite res.x) (finite off.x)).1
      (PixelAxis.cover b.bottom b.top (finite res.y) (finite off.y)).1 *
        .scale (finite res.x) (finite res.y)) crs = .ok g at hg
  obtain ⟨hwidth, hheight, haffine⟩ := of_make_eq_ok hg
  rw [translation_mul_scale_finite, ht] at haffine
  obtain ⟨ha, -, hc, -, he, hf⟩ := Affine.mk.inj haffine
  -- a finite map has a finite origin
  have hcolumn := PixelAxis.exists_cover_eq_finite hresX
    (Extended.eq_finite_of_add_eq_finite hc.symm)
  have hrow := PixelAxis.exists_cover_eq_finite hresY
    (Extended.eq_finite_of_add_eq_finite hf.symm)
  rw [sub_zero] at hcolumn hrow
  rw [hwidth, hheight]
  exact ⟨PixelAxis.cover_pos _ _ _ _, PixelAxis.cover_pos _ _ _ _, Extended.finite_injective ha,
    Extended.finite_injective he, hcolumn, hrow⟩

end

section

variable [Planar (Extended ℝ)]

/-- The footprint of a grid gives the grid back under every offset that its origin keeps up to
whole pixels. -/
theorem ofGeometry_extent_of_hasPixels {g : Grid (Extended ℝ)} {t : Affine ℝ}
    (ht : g.affine = t.finite) {resolution : AxisPair (Extended ℝ)}
    {alignment : Option (AxisPair (Extended ℝ))} (off : AxisPair ℝ)
    (hy : HasPixels resolution.y (alignment.getD ⟨0, 0⟩).y t.e off.y)
    (hx : HasPixels resolution.x (alignment.getD ⟨0, 0⟩).x t.a off.x) (hwidth : 0 < g.width)
    (hheight : 0 < g.height) (hc : ∃ n : ℤ, t.c = off.x + n * |t.a|)
    (hf : ∃ n : ℤ, t.f = off.y + n * |t.e|) :
    ofGeometry g.extent resolution none alignment = .ok g := by
  have hsystem : inSystem g.extent g.crs = .ok g.extent := if_pos (Crs.beq_refl g.crs)
  rw [ofGeometry_eq resolution alignment rfl hsystem (envelope_extent_finite ht)]
  rw [checkPixels_of_hasPixels ⟨t.e, t.a⟩ off hy hx]
  exact ofBox_footprint ht hy hx hwidth hheight hc hf

omit [Planar (Extended ℝ)] in
/-- A remainder by the pixel size can be used as an offset. -/
theorem hasPixels_modulo {res : ℝ} (x : ℝ) (hres : res ≠ 0) :
    HasPixels (finite res) (Scalar.modulo (finite x) (Scalar.abs (finite res))) res
      (Scalar.modulo x |res|) := by
  have hpos : 0 < |res| := abs_pos.2 hres
  refine ⟨rfl, ?_, hres, Exact.modulo_nonneg x hpos, (Exact.modulo_lt x hpos).le⟩
  rw [Extended.abs_finite, Extended.modulo_finite _ hpos.ne']

theorem exists_of_ofGeometry_eq_ok {geometry : Geometry (Extended ℝ)}
    {resolution : AxisPair (Extended ℝ)} {target : Option (Crs (Extended ℝ))}
    {alignment : Option (AxisPair (Extended ℝ))} {g : Grid (Extended ℝ)}
    (hg : ofGeometry geometry resolution target alignment = .ok g) :
    checkPixels resolution (alignment.getD ⟨0, 0⟩) = .ok () ∧
      ∃ b crs, ofBox b resolution (alignment.getD ⟨0, 0⟩) crs = .ok g := by
  obtain ⟨⟨⟩, hcheck, hrest⟩ := exists_of_bind_eq_ok hg
  refine ⟨hcheck, ?_⟩
  cases hcrs : (target <|> geometry.crs) with
  | none =>
    rw [hcrs] at hrest
    cases hrest
  | some crs =>
    rw [hcrs] at hrest
    obtain ⟨moved, -, hcover⟩ := exists_of_bind_eq_ok hrest
    obtain ⟨b, -, hbox⟩ := exists_of_bind_eq_ok hcover
    exact ⟨b, crs, hbox⟩

/-- A grid with finite coefficients is made again from its footprint with its own pixel sizes and
alignment, and a grid made for a geometry with the sizes and the alignment it was made with. -/
theorem ofGeometry_extent_eq :
    (∀ (g : Grid (Extended ℝ)) (t : Affine ℝ), g.affine = t.finite → t.a ≠ 0 → t.e ≠ 0 →
      0 < g.width → 0 < g.height →
        ofGeometry g.extent g.resolution none (some g.alignment) = .ok g) ∧
      ∀ (geometry : Geometry (Extended ℝ)) (resolution : AxisPair (Extended ℝ))
        (target : Option (Crs (Extended ℝ))) (alignment : Option (AxisPair (Extended ℝ)))
        (g : Grid (Extended ℝ)) (t : Affine ℝ),
        ofGeometry geometry resolution target alignment = .ok g → g.affine = t.finite →
          ofGeometry g.extent resolution none alignment = .ok g := by
  constructor
  · intro g t ht ha he hwidth hheight
    have hphase (x : ℝ) {res : ℝ} (hres : res ≠ 0) :
        ∃ n : ℤ, x = Scalar.modulo x |res| + n * |res| := by
      refine ⟨⌊x / |res|⌋, ?_⟩
      rw [Exact.modulo_eq x (abs_pos.2 hres)]
      ring
    have hy : HasPixels g.resolution.y g.alignment.y t.e (Scalar.modulo t.f |t.e|) := by
      unfold resolution alignment
      rw [ht]
      exact hasPixels_modulo t.f he
    have hx : HasPixels g.resolution.x g.alignment.x t.a (Scalar.modulo t.c |t.a|) := by
      unfold resolution alignment
      rw [ht]
      exact hasPixels_modulo t.c ha
    exact ofGeometry_extent_of_hasPixels ht ⟨_, _⟩ hy hx hwidth hheight (hphase t.c ha)
      (hphase t.f he)
  · intro geometry resolution target alignment g t hg ht
    obtain ⟨hcheck, b, crs, hbox⟩ := exists_of_ofGeometry_eq_ok hg
    obtain ⟨-, ⟨resY, offY, hy⟩, resX, offX, hx⟩ | ⟨⟨e, he, -⟩, -⟩ :=
      checkPixels_cases resolution (alignment.getD ⟨0, 0⟩)
    · obtain ⟨hwidth, hheight, ha, he, hc, hf⟩ :=
        of_ofBox_eq_ok ⟨resY, resX⟩ ⟨offY, offX⟩ hy hx hbox ht
      subst ha he
      exact ofGeometry_extent_of_hasPixels ht ⟨offY, offX⟩ hy hx hwidth hheight hc hf
    · rw [hcheck] at he
      cases he

end

noncomputable def leftwardGrid : Grid (Extended ℝ) where
  width := 3
  height := 2
  affine := Affine.finite ⟨-2, 0, 7 / 2, 0, 3, -5⟩
  crs := degrees
  axisAligned := by
    rw [Affine.isAxisAligned_finite, Affine.isAxisAligned_iff]
    exact ⟨rfl, rfl⟩

/-- The leftward grid comes back, and so does a grid for the rectangle in degrees whose rows keep an
offset of a whole pixel. -/
theorem ofGeometry_extent_eq_leftwardGrid :
    @ofGeometry _ _ turnsOnly leftwardGrid.extent leftwardGrid.resolution none
        (some leftwardGrid.alignment) = .ok leftwardGrid ∧
      ∃ g, @ofGeometry _ _ turnsOnly degreeRectangle ⟨finite (-1), finite 1⟩ none
          (some ⟨finite 1, finite (1 / 2)⟩) = .ok g ∧
        @ofGeometry _ _ turnsOnly g.extent ⟨finite (-1), finite 1⟩ none
          (some ⟨finite 1, finite (1 / 2)⟩) = .ok g := by
  constructor
  · exact (@ofGeometry_extent_eq turnsOnly).1 leftwardGrid ⟨-2, 0, 7 / 2, 0, 3, -5⟩ rfl
      (by norm_num) (by norm_num) (by decide) (by decide)
  · have hy : HasPixels (finite (-1)) (finite 1) (-1 : ℝ) 1 :=
      ⟨rfl, rfl, by norm_num, by norm_num, by norm_num⟩
    have hx : HasPixels (finite 1) (finite (1 / 2)) (1 : ℝ) (1 / 2) :=
      ⟨rfl, rfl, by norm_num, by norm_num, by norm_num⟩
    obtain ⟨g, hg, -, -, -, haffine⟩ := @exists_ofBox_eq ℝ _ _ _ ⟨0, 0, 5 / 2, 1⟩
      ⟨finite (-1), finite 1⟩ ⟨finite 1, finite (1 / 2)⟩ ⟨-1, 1⟩ ⟨1, 1 / 2⟩ degrees hy hx
    have hmoved : @inSystem _ _ turnsOnly degreeRectangle degrees = .ok degreeRectangle :=
      if_pos (Crs.beq_refl degrees)
    have hmade : @ofGeometry _ _ turnsOnly degreeRectangle ⟨finite (-1), finite 1⟩ none
        (some ⟨finite 1, finite (1 / 2)⟩) = .ok g := by
      rw [@ofGeometry_eq turnsOnly degreeRectangle degreeRectangle none degrees
        (Box.finite ⟨0, 0, 5 / 2, 1⟩) ⟨finite (-1), finite 1⟩ _ rfl hmoved rfl]
      rw [Option.getD_some, checkPixels_of_hasPixels ⟨-1, 1⟩ ⟨1, 1 / 2⟩ hy hx]
      exact hg
    exact ⟨g, hmade, (@ofGeometry_extent_eq turnsOnly).2 _ _ _ _ g _ hmade haffine⟩

end Graticule.Grid
