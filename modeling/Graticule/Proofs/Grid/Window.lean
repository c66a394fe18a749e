import Graticule.Grid.Resize
import Graticule.Proofs.Affine
import Mathlib.Data.Rat.Floor

/-!
# Windows of a grid

A window is a rectangle of whole pixels, given in the pixel coordinates of a grid; it may reach
beyond the grid.  Over exact scalars every operation that moves a grid by whole pixels gives the
grid of a window, so what such an operation keeps (the system, the pixel size, the alignment) is
proved here once, of `Grid.window`.

* `crop_eq_window` and `buffered_eq_window` are the windows of a selection and of a growth;
* `window_window` composes windows;
* `resolution_window` and `alignment_window` say what a window keeps.
-/

namespace Graticule

/-- A rectangle of whole pixels, by its first row and column and its size. -/
structure Window where
  row : ℤ
  column : ℤ
  height : ℕ
  width : ℕ
deriving DecidableEq, Repr

namespace Span

def IsContiguous (s : Span) : Prop := s.step = none ∨ s.step = some 1

theorem resolve_of_isContiguous {α : Type} {s : Span} (hs : s.IsContiguous) (length : ℕ) :
    (s.resolve length : Except (Error α) (ℤ × ℕ)) =
      .ok ((s.start.map (fromStart length)).getD 0,
        ((s.stop.map (fromStart length)).getD length -
          (s.start.map (fromStart length)).getD 0).toNat) := by
  have hstep : s.step.getD 1 = 1 := by
    rcases hs with hs | hs <;> rw [hs] <;> rfl
  unfold resolve
  simp only [hstep, if_true]

theorem fromStart_of_nonneg (length : ℕ) {i : ℤ} (hi : 0 ≤ i) : fromStart length i = i := by
  rw [fromStart, if_neg (not_lt.2 hi)]

theorem resolve_between {α : Type} {start stop : ℤ} (hstart : 0 ≤ start) (hstop : 0 ≤ stop)
    (length : ℕ) :
    ((between start stop).resolve length : Except (Error α) (ℤ × ℕ)) =
      .ok (start, (stop - start).toNat) := by
  rw [resolve_of_isContiguous (Or.inl rfl)]
  simp only [between, Option.map_some, Option.getD_some]
  rw [fromStart_of_nonneg length hstart, fromStart_of_nonneg length hstop]

end Span

namespace Grid

open scoped Exact

variable {K : Type} [Field K] [LinearOrder K] [FloorRing K]

theorem ext {g h : Grid K} (hwidth : g.width = h.width) (hheight : g.height = h.height)
    (haffine : g.affine = h.affine) (hcrs : g.crs = h.crs) : g = h := by
  cases g
  cases h
  simp_all

theorem beq_iff (g h : Grid K) :
    (g == h) = true ↔
      g.width = h.width ∧ g.height = h.height ∧ g.affine = h.affine ∧
        (g.crs == h.crs) = true := by
  change (_ == _ && _ == _ && _ == _ && _ == _) = true ↔ _
  simp only [Bool.and_eq_true, beq_iff_eq, Affine.beq_iff, and_assoc]

theorem shears_eq_zero (g : Grid K) : g.affine.b = 0 ∧ g.affine.d = 0 :=
  (Affine.isAxisAligned_iff _).1 g.axisAligned

theorem make_of_isAxisAligned (width height : ℕ) {t : Affine K} (crs : Crs K)
    (ht : t.isAxisAligned = true) :
    make width height t crs = .ok ⟨width, height, t, crs, ht⟩ := by
  rw [make, dif_pos ht]

/-! ## Shifts by whole pixels -/

theorem shifted_eq_mul (t : Affine K) (columns rows : ℤ) :
    shifted t columns rows = t * .translation (columns : K) (rows : K) := rfl

theorem shifted_natCast (t : Affine K) (columns rows : ℕ) :
    shifted t columns rows = t * .translation (columns : K) (rows : K) := by
  rw [shifted_eq_mul, Int.cast_natCast, Int.cast_natCast]

theorem shifted_eq (t : Affine K) (columns rows : ℤ) :
    shifted t columns rows =
      ⟨t.a, t.b, t.a * columns + t.b * rows + t.c, t.d, t.e,
        t.d * columns + t.e * rows + t.f⟩ := by
  rw [shifted_eq_mul, Affine.mul_translation]

@[simp] theorem shifted_zero (t : Affine K) : shifted t 0 0 = t := by
  rw [shifted_eq]
  apply Affine.ext <;> simp

@[simp] theorem shifted_shifted (t : Affine K) (columns rows columns' rows' : ℤ) :
    shifted (shifted t columns rows) columns' rows' =
      shifted t (columns + columns') (rows + rows') := by
  simp only [shifted_eq_mul]
  rw [Affine.mul_assoc, Affine.translation_mul_translation]
  push_cast
  rfl

@[simp] theorem isAxisAligned_shifted (t : Affine K) (columns rows : ℤ) :
    (shifted t columns rows).isAxisAligned = t.isAxisAligned := by
  rw [shifted_eq]
  rfl

@[simp] theorem determinant_shifted (t : Affine K) (columns rows : ℤ) :
    (shifted t columns rows).determinant = t.determinant := by
  rw [shifted_eq_mul, Affine.determinant_mul_translation]

@[simp] theorem inverse?_isSome_shifted (t : Affine K) (columns rows : ℤ) :
    (shifted t columns rows).inverse?.isSome = t.inverse?.isSome := by
  rw [Bool.eq_iff_iff, Affine.inverse?_isSome_iff, Affine.inverse?_isSome_iff,
    determinant_shifted]

/-- Different shifts of an invertible map are different maps. -/
theorem shifted_inj [IsStrictOrderedRing K] {t : Affine K} (ht : t.inverse?.isSome = true)
    {columns rows columns' rows' : ℤ} (h : shifted t columns rows = shifted t columns' rows') :
    columns = columns' ∧ rows = rows' := by
  obtain ⟨u, -, hcancel⟩ := Affine.inverse_mul_cancel ht
  have htranslation := congrArg (u * ·) h
  simp only [shifted_eq_mul, hcancel, Affine.translation_eq, Affine.mk.injEq] at htranslation
  exact ⟨Int.cast_injective htranslation.2.2.1, Int.cast_injective htranslation.2.2.2.2.2⟩

theorem scales_ne_zero [IsStrictOrderedRing K] {g : Grid K}
    (hg : g.affine.inverse?.isSome = true) :
    g.affine.a ≠ 0 ∧ g.affine.e ≠ 0 := by
  have hdet := Affine.determinant_ne_zero hg
  rw [Affine.determinant_eq, g.shears_eq_zero.1, zero_mul, sub_zero] at hdet
  exact mul_ne_zero_iff.1 hdet

/-! ## The grid of a window -/

def window (g : Grid K) (w : Window) : Grid K where
  width := w.width
  height := w.height
  affine := shifted g.affine w.column w.row
  crs := g.crs
  axisAligned := by rw [isAxisAligned_shifted, g.axisAligned]

@[simp] theorem width_window (g : Grid K) (w : Window) : (g.window w).width = w.width := rfl

@[simp] theorem height_window (g : Grid K) (w : Window) : (g.window w).height = w.height := rfl

@[simp] theorem crs_window (g : Grid K) (w : Window) : (g.window w).crs = g.crs := rfl

@[simp] theorem affine_window (g : Grid K) (w : Window) :
    (g.window w).affine = shifted g.affine w.column w.row := rfl

theorem window_self (g : Grid K) : g.window ⟨0, 0, g.height, g.width⟩ = g :=
  ext rfl rfl (shifted_zero _) rfl

theorem window_window (g : Grid K) (v w : Window) :
    (g.window v).window w = g.window ⟨v.row + w.row, v.column + w.column, w.height, w.width⟩ :=
  ext rfl rfl (shifted_shifted _ _ _ _ _) rfl

theorem resolution_window (g : Grid K) (w : Window) : (g.window w).resolution = g.resolution := by
  unfold resolution
  rw [affine_window, shifted_eq]

/-- The alignment is the origin modulo the pixel size, and a window moves it by whole pixels. -/
theorem alignment_window [IsStrictOrderedRing K] {g : Grid K}
    (hg : g.affine.inverse?.isSome = true) (w : Window) : (g.window w).alignment = g.alignment := by
  obtain ⟨ha, he⟩ := scales_ne_zero hg
  obtain ⟨hb, hd⟩ := g.shears_eq_zero
  -- a shift by `n` pixels of signed size `s` is one by `± n` of size `|s|`
  have hmove (x s : K) (n : ℤ) (hs : s ≠ 0) :
      Scalar.modulo (s * n + x) |s| = Scalar.modulo x |s| := by
    rcases abs_choice s with habs | habs
    · rw [← Exact.modulo_add_intCast_mul x n (abs_pos.2 hs), habs]
      congr 1
      ring
    · rw [← Exact.modulo_add_intCast_mul x (-n) (abs_pos.2 hs), habs]
      congr 1
      push_cast
      ring
  unfold alignment
  simp only [affine_window, shifted_eq, hb, hd, zero_mul, add_zero, zero_add, Exact.abs_eq]
  rw [hmove _ _ _ ha, hmove _ _ _ he]

/-! ## Operations that give windows -/

theorem make_shifted (g : Grid K) (width height : ℕ) (columns rows : ℤ) :
    make width height (shifted g.affine columns rows) g.crs =
      .ok (g.window ⟨rows, columns, height, width⟩) := by
  have haligned : (shifted g.affine columns rows).isAxisAligned = true := by
    rw [isAxisAligned_shifted, g.axisAligned]
  rw [make_of_isAxisAligned _ _ _ haligned]
  rfl

theorem crop_eq_window (g : Grid K) {region : Region} {row column : ℤ} {height width : ℕ}
    (hrows : (region.rows.resolve g.height : Except (Error K) _) = .ok (row, height))
    (hcolumns : (region.columns.resolve g.width : Except (Error K) _) = .ok (column, width)) :
    g.crop region = .ok (g.window ⟨row, column, height, width⟩) := by
  unfold crop
  rw [hrows, hcolumns]
  exact g.make_shifted width height column row

theorem crop_between (g : Grid K) {top bottom left right : ℤ} (htop : 0 ≤ top)
    (hbottom : 0 ≤ bottom) (hleft : 0 ≤ left) (hright : 0 ≤ right) :
    g.crop ⟨.between top bottom, .between left right⟩ =
      .ok (g.window ⟨top, left, (bottom - top).toNat, (right - left).toNat⟩) :=
  g.crop_eq_window (Span.resolve_between htop hbottom _) (Span.resolve_between hleft hright _)

theorem exists_crop_eq_window (g : Grid K) {region : Region} (hrows : region.rows.IsContiguous)
    (hcolumns : region.columns.IsContiguous) : ∃ w, g.crop region = .ok (g.window w) :=
  ⟨_, g.crop_eq_window (Span.resolve_of_isContiguous hrows _)
    (Span.resolve_of_isContiguous hcolumns _)⟩

theorem buffered_eq_window (g : Grid K) (distance : AxisPair K) :
    g.buffered distance =
      .ok (g.window
        ⟨-PixelAxis.pixelsFor distance.y g.resolution.y,
          -PixelAxis.pixelsFor distance.x g.resolution.x,
          grow g.height (PixelAxis.pixelsFor distance.y g.resolution.y),
          grow g.width (PixelAxis.pixelsFor distance.x g.resolution.x)⟩) :=
  g.make_shifted _ _ _ _

/-! ## A family of grids -/

def northUp (width height : ℕ) (column row : ℤ) : Grid ℚ where
  width := width
  height := height
  affine := ⟨10, 0, 10 * column, 0, -10, -10 * row⟩
  crs := ⟨⟨"EPSG:4326", some 4326, "WGS 84", .longLat ⟨6378137, 0⟩⟩, 0⟩
  axisAligned := by simp [Affine.isAxisAligned_iff]

variable [IsStrictOrderedRing K]

theorem northUp_eq_window (width height : ℕ) (column row : ℤ) :
    northUp width height column row =
      (northUp 0 0 0 0).window ⟨row, column, height, width⟩ := by
  refine ext rfl rfl ?_ rfl
  rw [affine_window, shifted_eq]
  apply Affine.ext <;> simp [northUp]

theorem affine_northUp (width height width' height' : ℕ) (column row columns rows : ℤ) :
    (northUp width' height' (column + columns) (row + rows)).affine =
      (northUp width height column row).affine * .translation (columns : ℚ) (rows : ℚ) := by
  rw [Affine.mul_translation]
  apply Affine.ext <;> simp [northUp] <;> ring

theorem negligible_le_determinant_northUp (width height : ℕ) (column row : ℤ) :
    Affine.negligible ≤ |(northUp width height column row).affine.determinant| := by
  rw [Affine.negligible_eq, Affine.determinant_eq]
  norm_num [northUp]

theorem inverse?_isSome_northUp (width height : ℕ) (column row : ℤ) :
    (northUp width height column row).affine.inverse?.isSome = true :=
  (Affine.inverse?_isSome_iff _).2 (negligible_le_determinant_northUp width height column row)

end Grid

end Graticule
