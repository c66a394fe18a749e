import Graticule.Grid.Cover
import Graticule.Proofs.Geometry.Envelope
import Graticule.Proofs.Grid.Lattice
import Graticule.Proofs.PixelAxis
import Graticule.Proofs.Scalar.Real

/-!
# Grids that cover a geometry

A grid is made for a geometry whenever the pixel sizes and the offsets of the edges can be used, and
its pixels cover the box around the geometry tightly along each axis: `ofGeometry_isTightCover`.
The scalars are the real numbers with infinities and not a number, so that sizes and offsets that
are not finite are among the inputs.
-/

namespace Graticule.Grid

open scoped Exact
open Extended (finite)

section

variable {K : Type} [Field K] [LinearOrder K] [FloorRing K]

/-- A pixel size is `res` and not zero, and an offset is `off` and lies between zero and `|res|`. -/
structure HasPixels (size offset : Extended K) (res off : K) : Prop where
  size_eq : size = finite res
  offset_eq : offset = finite off
  ne_zero : res ≠ 0
  nonneg : 0 ≤ off
  le : off ≤ |res|

/-- The pixels of a grid cover a box tightly along both axes.  They have the size `res`, and their
edges lie at the offset `off` up to whole pixels. -/
structure IsTightCover (g : Grid (Extended K)) (box : Box K) (res off : AxisPair K) : Prop where
  resolution : g.resolution = ⟨finite res.y, finite res.x⟩
  alignment_y : ∃ n : ℤ, g.alignment.y = finite (off.y + n * |res.y|)
  alignment_x : ∃ n : ℤ, g.alignment.x = finite (off.x + n * |res.x|)
  covers : ∃ footprint : Box K, g.extent.envelope = .ok footprint.finite ∧
    PixelAxis.IsTightCover box.left box.right res.x footprint.left footprint.right g.width ∧
    PixelAxis.IsTightCover box.bottom box.top res.y footprint.bottom footprint.top g.height

/-! ## Pixel sizes and offsets that can be used -/

theorem isPixelSize_iff (size : Extended K) :
    isPixelSize size = true ↔ ∃ res, size = finite res ∧ res ≠ 0 := by
  have hzero (res : K) : ((finite res : Extended K) == 0) = decide (res = 0) := by
    rw [Extended.numeral_eq, Nat.cast_zero, Extended.finite_beq]
  unfold isPixelSize
  rw [Bool.and_eq_true, Extended.isFinite_iff]
  constructor
  · rintro ⟨hne, res, rfl⟩
    rw [hzero, Bool.not_eq_true', decide_eq_false_iff_not] at hne
    exact ⟨res, rfl, hne⟩
  · rintro ⟨res, rfl, hne⟩
    rw [hzero, Bool.not_eq_true', decide_eq_false_iff_not]
    exact ⟨hne, res, rfl⟩

theorem isOffset_iff (offset : Extended K) (res : K) :
    isOffset offset (finite res) = true ↔ ∃ off, offset = finite off ∧ 0 ≤ off ∧ off ≤ |res| := by
  unfold isOffset
  rw [Bool.and_eq_true, decide_eq_true_iff, decide_eq_true_iff, Extended.numeral_eq,
    Nat.cast_zero, Extended.abs_finite]
  constructor
  · rintro ⟨hnonneg, hle⟩
    obtain ⟨off, rfl⟩ := Extended.exists_eq_finite_of_le hnonneg hle
    exact ⟨off, rfl, (Extended.finite_le _ _).1 hnonneg, (Extended.finite_le _ _).1 hle⟩
  · rintro ⟨off, rfl, hnonneg, hle⟩
    exact ⟨(Extended.finite_le _ _).2 hnonneg, (Extended.finite_le _ _).2 hle⟩

theorem exists_hasPixels_iff (size offset : Extended K) :
    (∃ res off, HasPixels size offset res off) ↔
      isPixelSize size = true ∧ isOffset offset size = true := by
  constructor
  · rintro ⟨res, off, rfl, rfl, hne, hnonneg, hle⟩
    exact ⟨(isPixelSize_iff _).2 ⟨res, rfl, hne⟩, (isOffset_iff _ _).2 ⟨off, rfl, hnonneg, hle⟩⟩
  · rintro ⟨hsize, hoffset⟩
    obtain ⟨res, rfl, hne⟩ := (isPixelSize_iff _).1 hsize
    obtain ⟨off, rfl, hnonneg, hle⟩ := (isOffset_iff _ _).1 hoffset
    exact ⟨res, off, rfl, rfl, hne, hnonneg, hle⟩

/-- Pixel sizes and offsets are accepted or refused as bad input. -/
theorem checkPixels_cases (resolution alignment : AxisPair (Extended K)) :
    (checkPixels resolution alignment = .ok () ∧
        (∃ res off, HasPixels resolution.y alignment.y res off) ∧
        ∃ res off, HasPixels resolution.x alignment.x res off) ∨
      (∃ e, checkPixels resolution alignment = .error e ∧ e.kind = .input) ∧
        ¬((∃ res off, HasPixels resolution.y alignment.y res off) ∧
          ∃ res off, HasPixels resolution.x alignment.x res off) := by
  rw [exists_hasPixels_iff, exists_hasPixels_iff]
  unfold checkPixels
  by_cases hsize : (!isPixelSize resolution.y || !isPixelSize resolution.x) = true
  · rw [if_pos hsize]
    refine Or.inr ⟨⟨_, rfl, rfl⟩, ?_⟩
    rintro ⟨⟨hy, -⟩, hx, -⟩
    rw [hy, hx] at hsize
    exact Bool.false_ne_true hsize
  · rw [if_neg hsize]
    by_cases hoffset :
        (!isOffset alignment.x resolution.x || !isOffset alignment.y resolution.y) = true
    · rw [if_pos hoffset]
      refine Or.inr ⟨⟨_, rfl, rfl⟩, ?_⟩
      rintro ⟨⟨-, hy⟩, -, hx⟩
      rw [hy, hx] at hoffset
      exact Bool.false_ne_true hoffset
    · rw [if_neg hoffset]
      simp only [Bool.or_eq_true, Bool.not_eq_true', not_or, Bool.not_eq_false] at hsize hoffset
      exact Or.inl ⟨rfl, ⟨hsize.1, hoffset.2⟩, hsize.2, hoffset.1⟩

/-! ## The grid of a box -/

theorem translation_mul_scale (x y sx sy : K) :
    (Affine.translation x y * Affine.scale sx sy : Affine K) = ⟨sx, 0, x, 0, sy, y⟩ := by
  rw [Affine.translation_eq, Affine.scale_eq, Affine.mul_eq]
  apply Affine.ext <;> ring

/-- The parts of the grid that is made for a box. -/
theorem exists_ofBox_eq (box : Box K) {resolution alignment : AxisPair (Extended K)}
    {res off : AxisPair K} (crs : Crs (Extended K))
    (hy : HasPixels resolution.y alignment.y res.y off.y)
    (hx : HasPixels resolution.x alignment.x res.x off.x) :
    ∃ g, ofBox box.finite resolution alignment crs = .ok g ∧ g.crs = crs ∧
      g.width = (PixelAxis.cover box.left box.right res.x off.x).2 ∧
      g.height = (PixelAxis.cover box.bottom box.top res.y off.y).2 ∧
      g.affine = Affine.finite ⟨res.x, 0, (PixelAxis.cover box.left box.right res.x off.x).1, 0,
        res.y, (PixelAxis.cover box.bottom box.top res.y off.y).1⟩ := by
  obtain ⟨sizeY, sizeX⟩ := resolution
  obtain ⟨offsetY, offsetX⟩ := alignment
  obtain ⟨rfl, rfl, hresY, -, -⟩ := hy
  obtain ⟨rfl, rfl, hresX, -, -⟩ := hx
  have haligned (x y : K) : (Affine.finite ⟨res.x, 0, x, 0, res.y, y⟩).isAxisAligned = true := by
    rw [Affine.isAxisAligned_finite, Affine.isAxisAligned_iff]
    exact ⟨rfl, rfl⟩
  refine ⟨⟨_, _, _, crs, haligned _ _⟩, ?_, rfl, rfl, rfl, rfl⟩
  unfold ofBox Box.finite
  simp only [PixelAxis.cover_finite _ _ _ hresX, PixelAxis.cover_finite _ _ _ hresY,
    Affine.translation_finite, Affine.scale_finite, Affine.mul_finite, translation_mul_scale]
  unfold make
  rw [dif_pos (haligned _ _)]

/-- The grid that is made for a box has the size and the alignment asked for and covers the box
tightly. -/
theorem exists_ofBox_isTightCover [IsStrictOrderedRing K] (box : Box K)
    {resolution alignment : AxisPair (Extended K)} {res off : AxisPair K} (crs : Crs (Extended K))
    (hy : HasPixels resolution.y alignment.y res.y off.y)
    (hx : HasPixels resolution.x alignment.x res.x off.x) :
    ∃ g, ofBox box.finite resolution alignment crs = .ok g ∧ g.crs = crs ∧
      g.IsTightCover box res off := by
  obtain ⟨g, hg, hcrs, hwidth, hheight, haffine⟩ := exists_ofBox_eq box crs hy hx
  have hphase {left right size offset : K} (hsize : size ≠ 0) :
      ∃ n : ℤ, Scalar.modulo (finite (PixelAxis.cover left right size offset).1)
        (Scalar.abs (finite size)) = finite (offset + n * |size|) := by
    obtain ⟨m, hm⟩ := PixelAxis.exists_cover_eq left right offset hsize
    have hpos : 0 < |size| := abs_pos.2 hsize
    refine ⟨m - ⌊(PixelAxis.cover left right size offset).1 / |size|⌋, ?_⟩
    rw [Extended.abs_finite, Extended.modulo_finite _ hpos.ne', Exact.modulo_eq _ hpos]
    congr 1
    push_cast
    linear_combination hm
  refine ⟨g, hg, hcrs, ⟨?_, ?_, ?_, ?_⟩⟩
  · unfold Grid.resolution
    rw [haffine]
    rfl
  · unfold Grid.alignment
    rw [haffine]
    exact hphase hy.ne_zero
  · unfold Grid.alignment
    rw [haffine]
    exact hphase hx.ne_zero
  · refine ⟨_, envelope_extent_finite haffine, ?_, ?_⟩
    · rw [hwidth]
      exact PixelAxis.isTightCover_cover box.left box.right off.x hx.ne_zero
    · rw [hheight]
      exact PixelAxis.isTightCover_cover box.bottom box.top off.y hy.ne_zero

end

/-! ## The grid of a geometry -/

section

variable [Planar (Extended ℝ)]

theorem ofGeometry_eq {geometry moved : Geometry (Extended ℝ)} {target : Option (Crs (Extended ℝ))}
    {crs : Crs (Extended ℝ)} {b : Box (Extended ℝ)} (resolution : AxisPair (Extended ℝ))
    (alignment : Option (AxisPair (Extended ℝ))) (hcrs : (target <|> geometry.crs) = some crs)
    (hmoved : inSystem geometry crs = .ok moved) (hb : moved.envelope = .ok b) :
    ofGeometry geometry resolution target alignment =
      (checkPixels resolution (alignment.getD ⟨0, 0⟩) >>= fun _ =>
        ofBox b resolution (alignment.getD ⟨0, 0⟩) crs) := by
  unfold ofGeometry
  rw [hcrs]
  simp only [hmoved]
  change (checkPixels _ _ >>= fun _ => moved.envelope >>= fun b => ofBox b _ _ _) = _
  rw [hb]
  rfl

/-- With a box around the geometry in the system of the grid, the input is refused exactly when a
pixel size or an offset cannot be used, and else there is a grid that covers the box tightly. -/
theorem ofGeometry_isTightCover {geometry moved : Geometry (Extended ℝ)}
    {target : Option (Crs (Extended ℝ))} {crs : Crs (Extended ℝ)} {box : Box ℝ}
    (resolution : AxisPair (Extended ℝ)) (alignment : Option (AxisPair (Extended ℝ)))
    (hcrs : (target <|> geometry.crs) = some crs) (hmoved : inSystem geometry crs = .ok moved)
    (hbox : moved.envelope = .ok box.finite) :
    ((∃ e, ofGeometry geometry resolution target alignment = .error e ∧ e.kind = .input) ↔
        ¬((∃ res off, HasPixels resolution.y (alignment.getD ⟨0, 0⟩).y res off) ∧
          ∃ res off, HasPixels resolution.x (alignment.getD ⟨0, 0⟩).x res off)) ∧
      ∀ res off : AxisPair ℝ,
        HasPixels resolution.y (alignment.getD ⟨0, 0⟩).y res.y off.y →
        HasPixels resolution.x (alignment.getD ⟨0, 0⟩).x res.x off.x →
        ∃ g, ofGeometry geometry resolution target alignment = .ok g ∧ g.crs = crs ∧
          g.IsTightCover box res off := by
  rw [ofGeometry_eq resolution alignment hcrs hmoved hbox]
  generalize alignment.getD ⟨0, 0⟩ = alignment
  obtain ⟨hcheck, hpixels⟩ | ⟨⟨e, hcheck, hkind⟩, hnot⟩ := checkPixels_cases resolution alignment
  · have hmade (res off : AxisPair ℝ) (hy : HasPixels resolution.y alignment.y res.y off.y)
        (hx : HasPixels resolution.x alignment.x res.x off.x) :=
      exists_ofBox_isTightCover box crs hy hx
    rw [hcheck]
    refine ⟨⟨?_, fun h => absurd hpixels h⟩, hmade⟩
    rintro ⟨e, he, -⟩
    obtain ⟨⟨resY, offY, hy⟩, resX, offX, hx⟩ := hpixels
    obtain ⟨g, hg, -⟩ := hmade ⟨resY, resX⟩ ⟨offY, offX⟩ hy hx
    change ofBox _ _ _ _ = _ at he
    rw [hg] at he
    cases he
  · rw [hcheck]
    refine ⟨⟨fun _ => hnot, fun _ => ⟨e, rfl, hkind⟩⟩, ?_⟩
    intro res off hy hx
    exact absurd ⟨⟨_, _, hy⟩, _, _, hx⟩ hnot

end

/-- Turns by the sign of the area between the two ways, for shapes that are neither combined nor
clipped. -/
@[reducible] noncomputable def turnsOnly : Planar (Extended ℝ) where
  turn p q r :=
    let area := (q.minus p).cross (r.minus q)
    if 0 < area then .left else if area < 0 then .right else .straight
  combine _ _ _ := []
  clip _ _ := []

noncomputable def degrees : Crs (Extended ℝ) :=
  ⟨⟨"EPSG:4326", some 4326, "WGS 84", .longLat ⟨finite 6378137, finite 0⟩⟩, 0⟩

noncomputable def degreeRectangle : Geometry (Extended ℝ) where
  shape := .rectangle (Position.finite ⟨0, 0⟩) (Position.finite ⟨5 / 2, 1⟩)
  crs := some degrees

/-- A pixel size of zero is refused; rows downward from whole degrees and columns from half degrees
cover the rectangle. -/
theorem ofGeometry_isTightCover_degreeRectangle :
    (∃ e, @ofGeometry _ _ turnsOnly degreeRectangle ⟨finite 0, finite 1⟩ none none = .error e ∧
        e.kind = .input) ∧
      ∃ g, @ofGeometry _ _ turnsOnly degreeRectangle ⟨finite (-1), finite 1⟩ none
          (some ⟨finite 0, finite (1 / 2)⟩) = .ok g ∧
        g.crs = degrees ∧ g.IsTightCover ⟨0, 0, 5 / 2, 1⟩ ⟨-1, 1⟩ ⟨0, 1 / 2⟩ := by
  have hmoved : @inSystem _ _ turnsOnly degreeRectangle degrees = .ok degreeRectangle :=
    if_pos (Crs.beq_refl degrees)
  constructor
  · have hrefused := (@ofGeometry_isTightCover turnsOnly degreeRectangle degreeRectangle none _
      ⟨0, 0, 5 / 2, 1⟩ ⟨finite 0, finite 1⟩ none rfl hmoved rfl).1
    apply hrefused.2
    rintro ⟨⟨res, off, hsize, -, hne, -, -⟩, -⟩
    exact hne (Extended.finite_injective hsize).symm
  · have hmade := (@ofGeometry_isTightCover turnsOnly degreeRectangle degreeRectangle none _
      ⟨0, 0, 5 / 2, 1⟩ ⟨finite (-1), finite 1⟩ (some ⟨finite 0, finite (1 / 2)⟩) rfl hmoved rfl).2
    exact hmade ⟨-1, 1⟩ ⟨0, 1 / 2⟩ ⟨rfl, rfl, by norm_num, by norm_num, by norm_num⟩
      ⟨rfl, rfl, by norm_num, by norm_num, by norm_num⟩

end Graticule.Grid
