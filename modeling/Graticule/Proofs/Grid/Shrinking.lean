import Graticule.Proofs.Grid.Growth
import Graticule.Proofs.Grid.Lattice

/-!
# Shrinking a grid by distances

A grid grown by a negative distance loses rows or columns on both sides, down to none.  Its first
row and column move by the whole distance even so: where this is longer than the grid, the empty
grid that is left lies past the opposite side.  `shrunk_within_iff` says that this is the only case
in which shrinking leaves the grid.
-/

namespace Graticule.Grid

open scoped Exact

variable {K : Type} [Field K] [LinearOrder K] [IsStrictOrderedRing K] [FloorRing K]

/-- The box lies in the pixels of a grid, in the pixel coordinates of that grid. -/
structure IsWithin (b : Box K) (g : Grid K) : Prop where
  left : 0 ≤ b.left
  bottom : 0 ≤ b.bottom
  right : b.right ≤ g.width
  top : b.top ≤ g.height

theorem pixelBox_window {g : Grid K} (hg : g.affine.inverse?.isSome = true) (w : Window) :
    (g.window w).pixelBox g = .ok w.sides.cast := by
  have hlattice := onLattice_window g ⟨0, 0, g.height, g.width⟩ w
  rw [window_self] at hlattice
  rw [pixelBox_eq hg hlattice, windowIn_eq hg (shifted_eq_mul g.affine w.column w.row)]
  rfl

theorem grow_le {n : ℕ} {b : ℤ} (hb : b ≤ 0) : grow n b ≤ n := by
  unfold grow
  omega

/-- Along an axis what is left of `n` pixels stays among them unless more than `n` are lost. -/
theorem within_grow_iff {n : ℕ} {b : ℤ} (hb : b ≤ 0) :
    (0 ≤ -b ∧ -b + grow n b ≤ n) ↔ -(n : ℤ) ≤ b := by
  unfold grow
  omega

theorem neg_le_pixelsFor_iff {res : K} (hres : res ≠ 0) (amount : K) (n : ℕ) :
    -(n : ℤ) ≤ PixelAxis.pixelsFor amount res ↔ -((n + 9 / 10) * |res|) < amount := by
  rw [← Int.sub_one_lt_iff, PixelAxis.lt_pixelsFor_iff amount hres]
  push_cast
  constructor <;> intro h <;> linarith

theorem isWithin_sides_iff (g : Grid K) {columns rows : ℤ} (hcolumns : columns ≤ 0)
    (hrows : rows ≤ 0) :
    IsWithin (Window.sides ⟨-rows, -columns, grow g.height rows, grow g.width columns⟩).cast g ↔
      -(g.width : ℤ) ≤ columns ∧ -(g.height : ℤ) ≤ rows := by
  rw [← within_grow_iff hcolumns, ← within_grow_iff hrows]
  constructor
  · rintro ⟨hleft, hbottom, hright, htop⟩
    simp only [Box.cast, Window.sides] at hleft hbottom hright htop
    exact ⟨⟨by exact_mod_cast hleft, by exact_mod_cast hright⟩, by exact_mod_cast hbottom,
      by exact_mod_cast htop⟩
  · rintro ⟨⟨hleft, hright⟩, hbottom, htop⟩
    constructor <;> simp only [Box.cast, Window.sides] <;> exact_mod_cast ‹_›

/-- A grid shrunk by distances has its pixel box in the grid, with no more rows and columns, and the
box lies within the grid exactly when neither distance is nine tenths of a pixel longer than the grid
or more. -/
theorem shrunk_within_iff (g : Grid K) (hg : g.affine.inverse?.isSome = true) (amount : AxisPair K)
    (hx : amount.x ≤ 0) (hy : amount.y ≤ 0) :
    ∃ h b, g.buffered amount = .ok h ∧ h.pixelBox g = .ok b ∧
      h.width ≤ g.width ∧ h.height ≤ g.height ∧
      (IsWithin b g ↔
        -((g.width + 9 / 10) * |g.resolution.x|) < amount.x ∧
          -((g.height + 9 / 10) * |g.resolution.y|) < amount.y) := by
  have hsizeX : g.resolution.x ≠ 0 := (scales_ne_zero hg).1
  have hsizeY : g.resolution.y ≠ 0 := (scales_ne_zero hg).2
  have hcolumns := PixelAxis.pixelsFor_nonpos hsizeX hx
  have hrows := PixelAxis.pixelsFor_nonpos hsizeY hy
  refine ⟨_, _, g.buffered_eq_window amount, pixelBox_window hg _, grow_le hcolumns, grow_le hrows,
    ?_⟩
  rw [← neg_le_pixelsFor_iff hsizeX, ← neg_le_pixelsFor_iff hsizeY]
  exact isWithin_sides_iff g hcolumns hrows

/-- Of five columns three are lost on both sides and of four rows one: two rows without columns are
left, within the grid. -/
theorem shrunk_within_iff_narrow :
    let g := northUp 5 4 0 0
    g.affine.inverse?.isSome = true ∧ (-30 : ℚ) ≤ 0 ∧ (-10 : ℚ) ≤ 0 ∧
      ∃ h b, g.buffered ⟨-10, -30⟩ = .ok h ∧ h.pixelBox g = .ok b ∧ h.width ≤ 5 ∧ h.height ≤ 4 ∧
        IsWithin b g := by
  intro g
  have hg := inverse?_isSome_northUp 5 4 0 0
  obtain ⟨h, b, hbuffered, hbox, hwidth, hheight, hwithin⟩ :=
    shrunk_within_iff g hg ⟨-10, -30⟩ (by norm_num) (by norm_num)
  refine ⟨hg, by norm_num, by norm_num, h, b, hbuffered, hbox, hwidth, hheight, hwithin.2 ?_⟩
  norm_num [g, northUp, resolution]

/-- Four columns and rows less ten on either side leave an empty grid six columns and rows past the
end. -/
theorem not_shrunk_within :
    ¬∀ (g : Grid ℚ) (amount : AxisPair ℚ), g.affine.inverse?.isSome = true → amount.x ≤ 0 →
      amount.y ≤ 0 → ∀ h b, g.buffered amount = .ok h → h.pixelBox g = .ok b → IsWithin b g := by
  intro hwithin
  have hg := inverse?_isSome_northUp 4 4 0 0
  have hcolumns : PixelAxis.pixelsFor (-100) (northUp 4 4 0 0).resolution.x = -10 := by
    decide +kernel
  have hfar := hwithin _ ⟨-100, -100⟩ hg (by norm_num) (by norm_num) _ _
    (buffered_eq_window _ _) (pixelBox_window hg _)
  have hright := hfar.right
  rw [hcolumns] at hright
  norm_num [northUp, Box.cast, Window.sides, grow] at hright

end Graticule.Grid
