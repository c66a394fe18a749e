import Graticule.Proofs.Geometry.Envelope
import Graticule.Proofs.Grid.Window
import Graticule.Proofs.PixelAxis

/-!
# Growing a grid by distances

A distance on either side of a grid is rounded to whole pixels, the fewest that come within a tenth
of a pixel of it.  So each side of the footprint moves outward by the distance up to a pixel,
`exists_envelope_window`, inward for a negative distance.  Growing only adds rows and columns, and
selecting those that the grid had before gives the grid back.
-/

namespace Graticule.Grid

open scoped Exact

variable {K : Type} [Field K] [LinearOrder K] [IsStrictOrderedRing K] [FloorRing K]

/-- A way falls short of an amount by no more than a tenth of a pixel, and is longer by less than
nine tenths. -/
def ReachesBy (amount res way : K) : Prop :=
  amount - |res| / 10 ≤ way ∧ way < amount + 9 * |res| / 10

theorem reachesBy_pixelsFor (amount : K) {res : K} (hres : res ≠ 0) :
    ReachesBy amount res (PixelAxis.pixelsFor amount res * |res|) :=
  ⟨(PixelAxis.isLeast_pixelsFor amount hres).1, PixelAxis.pixelsFor_mul_lt amount hres⟩

omit [IsStrictOrderedRing K] in
theorem envelope_extent (g : Grid K) :
    g.extent.envelope =
      .ok ⟨min g.affine.c (g.affine.c + g.width * g.affine.a),
        min g.affine.f (g.affine.f + g.height * g.affine.e),
        max g.affine.c (g.affine.c + g.width * g.affine.a),
        max g.affine.f (g.affine.f + g.height * g.affine.e)⟩ := by
  have hbox := Shape.box?_ofImage (g.width : K) (g.height : K) g.axisAligned
  unfold Geometry.envelope extent
  rw [Exact.ofNat_eq, Exact.ofNat_eq, hbox]

/-! ## Sides along an axis -/

/-- Along an axis both ends of `n` pixels move outward by `b` pixels. -/
theorem ends_grown (edge res : K) {n : ℕ} {b : ℤ} (hn : 0 ≤ (n : ℤ) + 2 * b) :
    min edge (edge + n * res) -
        min (res * ((-b : ℤ) : K) + edge) (res * ((-b : ℤ) : K) + edge + grow n b * res) =
      b * |res| ∧
    max (res * ((-b : ℤ) : K) + edge) (res * ((-b : ℤ) : K) + edge + grow n b * res) -
        max edge (edge + n * res) = b * |res| := by
  have hcount : ((grow n b : ℕ) : K) = n + 2 * b := by
    have hcast : ((grow n b : ℕ) : ℤ) = n + 2 * b := Int.toNat_of_nonneg hn
    exact_mod_cast congrArg (Int.cast (R := K)) hcast
  have hgrown : (0 : K) ≤ n + 2 * b := by exact_mod_cast hn
  have hpixels : (0 : K) ≤ n := n.cast_nonneg
  rw [hcount, Int.cast_neg]
  rcases le_total 0 res with hpos | hneg
  · have hold : edge ≤ edge + n * res := le_add_of_nonneg_right (mul_nonneg hpixels hpos)
    have hnew : res * -(b : K) + edge ≤ res * -(b : K) + edge + (n + 2 * b) * res :=
      le_add_of_nonneg_right (mul_nonneg hgrown hpos)
    rw [min_eq_left hold, min_eq_left hnew, max_eq_right hold, max_eq_right hnew,
      abs_of_nonneg hpos]
    constructor <;> ring
  · have hold : edge + n * res ≤ edge :=
      add_le_of_nonpos_right (mul_nonpos_of_nonneg_of_nonpos hpixels hneg)
    have hnew : res * -(b : K) + edge + (n + 2 * b) * res ≤ res * -(b : K) + edge :=
      add_le_of_nonpos_right (mul_nonpos_of_nonneg_of_nonpos hgrown hneg)
    rw [min_eq_right hold, min_eq_right hnew, max_eq_left hold, max_eq_left hnew,
      abs_of_nonpos hneg]
    constructor <;> ring

/-! ## The grown grid -/

/-- The four sides move outward by whole pixels, those at the left and right by one number and those
at the bottom and top by another. -/
theorem exists_envelope_window (g : Grid K) {columns rows : ℤ}
    (hwidth : 0 ≤ (g.width : ℤ) + 2 * columns) (hheight : 0 ≤ (g.height : ℤ) + 2 * rows) :
    ∃ b c, g.extent.envelope = .ok b ∧
      (g.window ⟨-rows, -columns, grow g.height rows, grow g.width columns⟩).extent.envelope =
        .ok c ∧
      b.left - c.left = columns * |g.resolution.x| ∧ c.right - b.right = columns * |g.resolution.x| ∧
      b.bottom - c.bottom = rows * |g.resolution.y| ∧ c.top - b.top = rows * |g.resolution.y| := by
  obtain ⟨hb, hd⟩ := g.shears_eq_zero
  refine ⟨_, _, g.envelope_extent, envelope_extent _, ?_⟩
  simp only [affine_window, width_window, height_window, shifted_eq, hb, hd, zero_mul, add_zero,
    zero_add]
  obtain ⟨hleft, hright⟩ := ends_grown g.affine.c g.affine.a hwidth
  obtain ⟨hbottom, htop⟩ := ends_grown g.affine.f g.affine.e hheight
  exact ⟨hleft, hright, hbottom, htop⟩

omit [IsStrictOrderedRing K] in
theorem crop_window_grow (g : Grid K) {columns rows : ℤ} (hcolumns : 0 ≤ columns)
    (hrows : 0 ≤ rows) :
    (g.window ⟨-rows, -columns, grow g.height rows, grow g.width columns⟩).crop
      ⟨.between rows (rows + g.height), .between columns (columns + g.width)⟩ = .ok g := by
  rw [crop_between _ hrows (by omega) hcolumns (by omega), window_window, neg_add_cancel,
    neg_add_cancel, add_sub_cancel_left, add_sub_cancel_left, Int.toNat_natCast, Int.toNat_natCast,
    window_self]

/-- Growing a grid by distances rounds each to the fewest pixels that come within a tenth of a pixel
of it.  If the grid has rows and columns enough for this, its four sides move outward by the distance
up to that rounding, and inward for a negative one.  Selecting the former rows and columns undoes
growing by distances that are not negative. -/
theorem buffered_sides_crop (g : Grid K) (hx : g.resolution.x ≠ 0) (hy : g.resolution.y ≠ 0)
    (amount : AxisPair K) :
    let rows := PixelAxis.pixelsFor amount.y g.resolution.y
    let columns := PixelAxis.pixelsFor amount.x g.resolution.x
    IsLeast {n : ℤ | amount.y - |g.resolution.y| / 10 ≤ n * |g.resolution.y|} rows ∧
      IsLeast {n : ℤ | amount.x - |g.resolution.x| / 10 ≤ n * |g.resolution.x|} columns ∧
      ∃ h, g.buffered amount = .ok h ∧
        (0 ≤ (g.width : ℤ) + 2 * columns → 0 ≤ (g.height : ℤ) + 2 * rows →
          ∃ b c, g.extent.envelope = .ok b ∧ h.extent.envelope = .ok c ∧
            ReachesBy amount.x g.resolution.x (b.left - c.left) ∧
            ReachesBy amount.x g.resolution.x (c.right - b.right) ∧
            ReachesBy amount.y g.resolution.y (b.bottom - c.bottom) ∧
            ReachesBy amount.y g.resolution.y (c.top - b.top)) ∧
        (0 ≤ amount.y → 0 ≤ amount.x →
          h.crop ⟨.between rows (rows + g.height), .between columns (columns + g.width)⟩ =
            .ok g) := by
  intro rows columns
  refine ⟨PixelAxis.isLeast_pixelsFor _ hy, PixelAxis.isLeast_pixelsFor _ hx, _,
    g.buffered_eq_window amount, ?_, ?_⟩
  · intro hwidth hheight
    obtain ⟨b, c, hb, hc, hleft, hright, hbottom, htop⟩ := g.exists_envelope_window hwidth hheight
    refine ⟨b, c, hb, hc, ?_⟩
    rw [hleft, hright, hbottom, htop]
    exact ⟨reachesBy_pixelsFor _ hx, reachesBy_pixelsFor _ hx, reachesBy_pixelsFor _ hy,
      reachesBy_pixelsFor _ hy⟩
  · intro hamountY hamountX
    exact g.crop_window_grow (PixelAxis.pixelsFor_nonneg hx hamountX)
      (PixelAxis.pixelsFor_nonneg hy hamountY)

def leftUp : Grid ℚ where
  width := 3
  height := 2
  affine := ⟨-2, 0, 7 / 2, 0, 3, -5⟩
  crs := (northUp 3 2 0 0).crs
  axisAligned := by simp [Affine.isAxisAligned_iff]

/-- Four units above and below and two and a half beside take two rows and two columns more. -/
theorem buffered_sides_crop_leftUp :
    leftUp.resolution.x ≠ 0 ∧ leftUp.resolution.y ≠ 0 ∧
      ∃ h, leftUp.buffered ⟨4, 5 / 2⟩ = .ok h ∧
        (∃ b c, leftUp.extent.envelope = .ok b ∧ h.extent.envelope = .ok c ∧
          ReachesBy (5 / 2) (-2) (b.left - c.left) ∧ ReachesBy (5 / 2) (-2) (c.right - b.right) ∧
          ReachesBy 4 3 (b.bottom - c.bottom) ∧ ReachesBy 4 3 (c.top - b.top)) ∧
        h.crop ⟨.between 2 4, .between 2 5⟩ = .ok leftUp := by
  have hx : leftUp.resolution.x ≠ 0 := by norm_num [leftUp, resolution]
  have hy : leftUp.resolution.y ≠ 0 := by norm_num [leftUp, resolution]
  have hrows : PixelAxis.pixelsFor 4 leftUp.resolution.y = 2 := by decide +kernel
  have hcolumns : PixelAxis.pixelsFor (5 / 2) leftUp.resolution.x = 2 := by decide +kernel
  obtain ⟨-, -, h, hbuffered, hsides, hcrop⟩ := buffered_sides_crop leftUp hx hy ⟨4, 5 / 2⟩
  rw [hrows, hcolumns] at hsides hcrop
  exact ⟨hx, hy, h, hbuffered, hsides (by decide) (by decide), hcrop (by norm_num) (by norm_num)⟩

end Graticule.Grid
