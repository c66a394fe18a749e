import Graticule.Grid.Lattice
import Graticule.Proofs.Box
import Graticule.Proofs.Crs.Definition
import Graticule.Proofs.Except
import Graticule.Proofs.Grid.Window

/-!
# Grids on one lattice

Grids on the lattice of a reference grid are windows of it up to the identifier of their system:
`Grid.windowIn` is that window.  The pixel box of such a grid is found and has the sides of its
window, so the box that several of them combine to has whole sides, each the extreme one of the
windows: `combinedBox_join` and `combinedBox_meet`.
-/

namespace Graticule

/-- The sides of a window, in the pixel coordinates it is given in. -/
def Window.sides (w : Window) : Box ℤ :=
  ⟨w.column, w.row, w.column + w.width, w.row + w.height⟩

/-- The window with given sides; it has no pixels along an axis on which the box is inverted. -/
def Window.ofSides (b : Box ℤ) : Window :=
  ⟨b.bottom, b.left, (b.top - b.bottom).toNat, (b.right - b.left).toNat⟩

theorem Window.sides_ofSides {b : Box ℤ} (hx : b.left ≤ b.right) (hy : b.bottom ≤ b.top) :
    (Window.ofSides b).sides = b := by
  cases b with
  | mk left bottom right top =>
    simp only [Window.sides, Window.ofSides, Box.mk.injEq, true_and] at hx hy ⊢
    omega

namespace Grid

open scoped Exact

variable {K : Type} [Field K] [LinearOrder K] [IsStrictOrderedRing K] [FloorRing K]

/-- `g` has the system of the reference grid and its map moved by whole pixels. -/
def OnLattice (reference g : Grid K) : Prop :=
  (reference.crs == g.crs) = true ∧
    ∃ columns rows : ℤ, g.affine = reference.affine * .translation (columns : K) (rows : K)

/-- The window that a grid on the lattice of a reference grid occupies there. -/
def windowIn (reference g : Grid K) : Window where
  row := Exact.nearest ((g.affine.f - reference.affine.f) / reference.affine.e)
  column := Exact.nearest ((g.affine.c - reference.affine.c) / reference.affine.a)
  height := g.height
  width := g.width

omit [IsStrictOrderedRing K] in
theorem onLattice_self (g : Grid K) : g.OnLattice g := by
  refine ⟨Crs.beq_refl _, 0, 0, ?_⟩
  rw [← shifted_eq_mul, shifted_zero]

omit [IsStrictOrderedRing K] in
theorem onLattice_cons {reference : Grid K} {rest : List (Grid K)}
    (hrest : ∀ g ∈ rest, reference.OnLattice g) :
    ∀ g ∈ reference :: rest, reference.OnLattice g := by
  intro g hg
  rcases List.mem_cons.1 hg with rfl | hg
  · exact g.onLattice_self
  · exact hrest g hg

omit [IsStrictOrderedRing K] in
theorem onLattice_window (g : Grid K) (v w : Window) :
    (g.window v).OnLattice (g.window w) := by
  refine ⟨Crs.beq_refl _, w.column - v.column, w.row - v.row, ?_⟩
  rw [← shifted_eq_mul, affine_window, affine_window, shifted_shifted, add_sub_cancel,
    add_sub_cancel]

theorem onLattice_northUp (width height width' height' : ℕ) (column row column' row' : ℤ) :
    (northUp width height column row).OnLattice (northUp width' height' column' row') := by
  rw [northUp_eq_window width, northUp_eq_window width']
  exact onLattice_window _ _ _

theorem windowIn_eq {reference g : Grid K} (href : reference.affine.inverse?.isSome = true)
    {columns rows : ℤ}
    (hg : g.affine = reference.affine * .translation (columns : K) (rows : K)) :
    reference.windowIn g = ⟨rows, columns, g.height, g.width⟩ := by
  obtain ⟨ha, he⟩ := scales_ne_zero href
  obtain ⟨hb, hd⟩ := reference.shears_eq_zero
  unfold windowIn
  rw [hg, Affine.mul_translation, hb, hd, zero_mul, zero_mul, add_zero, zero_add,
    add_sub_cancel_right, add_sub_cancel_right, mul_div_cancel_left₀ _ he,
    mul_div_cancel_left₀ _ ha, Exact.nearest_intCast, Exact.nearest_intCast]

theorem affine_eq_shifted_windowIn {reference g : Grid K}
    (href : reference.affine.inverse?.isSome = true) (hg : reference.OnLattice g) :
    g.affine = shifted reference.affine (reference.windowIn g).column
      (reference.windowIn g).row := by
  obtain ⟨-, columns, rows, hshift⟩ := hg
  rw [windowIn_eq href hshift, shifted_eq_mul, hshift]

/-! ## Pixel boxes -/

theorem isWholeShift_translation (columns rows : ℤ) :
    isWholeShift (Affine.translation (columns : K) (rows : K)) = true := by
  have htolerance : (0 : K) < wholePixelTolerance := by
    unfold wholePixelTolerance
    rw [Exact.decimal_eq]
    positivity
  unfold isWholeShift
  simp only [Affine.translation_eq, Exact.numeral_eq, Nat.cast_one, Nat.cast_zero,
    Exact.isClose_self, Exact.isNearlyWhole_intCast _ htolerance, Bool.and_self]

/-- The pixel box of the grid is found, and its sides are those of the window of the grid. -/
def Accepts (reference g : Grid K) : Prop :=
  g.pixelBox reference = .ok (reference.windowIn g).sides.cast

theorem pixelBox_eq {reference g : Grid K} (href : reference.affine.inverse?.isSome = true)
    (hg : reference.OnLattice g) :
    g.pixelBox reference = .ok (reference.windowIn g).sides.cast := by
  obtain ⟨inverse, hinverse, hcancel⟩ := Affine.inverse_mul_cancel href
  have haffine := affine_eq_shifted_windowIn href hg
  unfold pixelBox
  rw [hg.1, hinverse]
  simp only [Bool.not_true, Bool.false_eq_true, if_false]
  rw [haffine, shifted_eq_mul, hcancel, isWholeShift_translation, if_pos rfl]
  simp only [Affine.translation_eq, Exact.round_eq, Exact.nearest_intCast, Exact.ofNat_eq]
  simp only [Box.cast, Window.sides, windowIn]
  push_cast
  rfl

theorem accepts_cons {reference : Grid K} {rest : List (Grid K)}
    (href : reference.affine.inverse?.isSome = true)
    (hrest : ∀ g ∈ rest, reference.OnLattice g) :
    ∀ g ∈ reference :: rest, reference.Accepts g :=
  fun g hg => pixelBox_eq href (onLattice_cons hrest g hg)

theorem ofPixelBox_cast (reference : Grid K) (b : Box ℤ) :
    reference.ofPixelBox b.cast = .ok (reference.window (.ofSides b)) := by
  have hpixels (low high : ℤ) : pixelsIn ((high : K) - low) = (high - low).toNat := by
    unfold pixelsIn
    rw [← Int.cast_sub, Exact.round_eq, Exact.nearest_intCast, Exact.greatest_eq,
      Exact.numeral_eq, Nat.cast_zero, ← Int.cast_zero, ← Int.cast_max, Exact.toNat_eq,
      Exact.truncate_intCast]
    omega
  unfold ofPixelBox
  simp only [Box.width, Box.height, Box.cast]
  rw [hpixels, hpixels]
  exact reference.make_shifted _ _ _ _

/-! ## Boxes of several grids -/

omit [IsStrictOrderedRing K] in
theorem combinedBox_eq (combine : Box K → Box K → Box K) {reference : Grid K}
    {rest : List (Grid K)} (hall : ∀ g ∈ reference :: rest, reference.Accepts g) :
    combinedBox combine reference rest =
      .ok ((rest.map fun g => (reference.windowIn g).sides.cast).foldl combine
        (reference.windowIn reference).sides.cast) := by
  obtain ⟨hself, hrest⟩ := List.forall_mem_cons.1 hall
  unfold combinedBox
  rw [hself, mapM_eq_ok_map hrest]
  rfl

/-- The sides of the windows that grids occupy in the lattice of a reference grid. -/
def sidesIn (reference : Grid K) (grids : List (Grid K)) : List (Box ℤ) :=
  grids.map fun g => (reference.windowIn g).sides

omit [IsStrictOrderedRing K] in
theorem sides_mem_sidesIn (reference : Grid K) {grids : List (Grid K)} {g : Grid K}
    (hg : g ∈ grids) : (reference.windowIn g).sides ∈ reference.sidesIn grids :=
  List.mem_map.2 ⟨g, hg, rfl⟩

omit [IsStrictOrderedRing K] in
/-- A side that is attained by the boxes of some grids is attained by one of the grids. -/
theorem exists_grid_of_side {reference : Grid K} {grids : List (Grid K)} {side : Box ℤ → ℤ}
    {x : ℤ} (hx : x ∈ Box.numbersAt some side (reference.sidesIn grids)) :
    ∃ g ∈ grids, side (reference.windowIn g).sides = x := by
  obtain ⟨c, hc, hside⟩ := Box.mem_numbersAt_some.1 hx
  obtain ⟨g, hg, rfl⟩ := List.mem_map.1 hc
  exact ⟨g, hg, hside⟩

theorem combinedBox_join {reference : Grid K} {rest : List (Grid K)}
    (hall : ∀ g ∈ reference :: rest, reference.Accepts g) :
    ∃ b : Box ℤ, combinedBox Box.join reference rest = .ok b.cast ∧
      Box.IsHull some (reference.sidesIn (reference :: rest)) b := by
  obtain ⟨b, hfold, hb⟩ := Box.exists_foldl_join (K := K) (reference.windowIn reference).sides
    (reference.sidesIn rest)
  refine ⟨b, ?_, hb⟩
  rw [combinedBox_eq _ hall, ← hfold, sidesIn, List.map_map]
  rfl

theorem combinedBox_meet {reference : Grid K} {rest : List (Grid K)}
    (hall : ∀ g ∈ reference :: rest, reference.Accepts g) :
    ∃ b : Box ℤ, combinedBox Box.meet reference rest = .ok b.cast ∧
      Box.IsOverlap some (reference.sidesIn (reference :: rest)) b := by
  obtain ⟨b, hfold, hb⟩ := Box.exists_foldl_meet (K := K) (reference.windowIn reference).sides
    (reference.sidesIn rest)
  refine ⟨b, ?_, hb⟩
  rw [combinedBox_eq _ hall, ← hfold, sidesIn, List.map_map]
  rfl

theorem collapseInverted_cast (b : Box ℤ) :
    collapseInverted (b.cast : Box K) = b.clamp.cast := by
  have hmax (low high : ℤ) :
      (if (high : K) < low then (low : K) else high) = ((max low high : ℤ) : K) := by
    split_ifs with hlt
    · rw [max_eq_left (Int.cast_lt.1 hlt).le]
    · rw [max_eq_right (not_lt.1 (mt Int.cast_lt.2 hlt))]
  unfold collapseInverted
  simp only [Box.cast, Box.clamp]
  rw [← hmax, ← hmax]
  rfl

theorem unionAll_eq_window_of_accepts {reference : Grid K} {rest : List (Grid K)}
    (hall : ∀ g ∈ reference :: rest, reference.Accepts g) :
    ∃ b : Box ℤ, Box.IsHull some (reference.sidesIn (reference :: rest)) b ∧
      unionAll (reference :: rest) = .ok (reference.window (.ofSides b)) := by
  obtain ⟨b, hbox, hb⟩ := combinedBox_join hall
  refine ⟨b, hb, ?_⟩
  rw [unionAll, hbox]
  exact ofPixelBox_cast reference b

theorem unionAll_eq_window {reference : Grid K} {rest : List (Grid K)}
    (href : reference.affine.inverse?.isSome = true)
    (hrest : ∀ g ∈ rest, reference.OnLattice g) :
    ∃ b : Box ℤ, Box.IsHull some (reference.sidesIn (reference :: rest)) b ∧
      unionAll (reference :: rest) = .ok (reference.window (.ofSides b)) :=
  unionAll_eq_window_of_accepts (accepts_cons href hrest)

theorem commonBox_eq_of_accepts {reference : Grid K} {rest : List (Grid K)}
    (hall : ∀ g ∈ reference :: rest, reference.Accepts g) :
    ∃ b : Box ℤ, Box.IsOverlap some (reference.sidesIn (reference :: rest)) b ∧
      commonBox reference rest = .ok b.clamp.cast := by
  obtain ⟨b, hbox, hb⟩ := combinedBox_meet hall
  refine ⟨b, hb, ?_⟩
  unfold commonBox
  rw [hbox, ← collapseInverted_cast]
  rfl

theorem commonBox_eq {reference : Grid K} {rest : List (Grid K)}
    (href : reference.affine.inverse?.isSome = true)
    (hrest : ∀ g ∈ rest, reference.OnLattice g) :
    ∃ b : Box ℤ, Box.IsOverlap some (reference.sidesIn (reference :: rest)) b ∧
      commonBox reference rest = .ok b.clamp.cast :=
  commonBox_eq_of_accepts (accepts_cons href hrest)

theorem intersectionAll_eq_window {reference : Grid K} {rest : List (Grid K)}
    {b : Box ℤ} (hbox : commonBox reference rest = .ok b.cast) :
    intersectionAll (reference :: rest) = .ok (reference.window (.ofSides b)) := by
  rw [intersectionAll, hbox]
  exact ofPixelBox_cast reference b

end Grid

end Graticule
