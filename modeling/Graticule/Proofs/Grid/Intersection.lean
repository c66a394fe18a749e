import Graticule.Proofs.Grid.Lattice

/-!
# The intersection of grids is what they have in common

A pixel of a grid is known by its cell, the affine map that takes the unit square onto it, so pixels
of different grids can be compared.  `intersectionAll_isCommon` says of grids on one lattice that
the cells of their intersection are the cells that all of them have, and that the intersection is
what cropping any one of them to the common box gives.  Where the grids are apart the box is
inverted before it is clamped, and the crop starts past the end of the grid.
-/

namespace Graticule

namespace Box

def HasCell (b : Box ℤ) (row column : ℤ) : Prop :=
  (b.bottom ≤ row ∧ row < b.top) ∧ b.left ≤ column ∧ column < b.right

/-- Clamping a box takes no cell away and adds none. -/
theorem hasCell_clamp (b : Box ℤ) (row column : ℤ) :
    b.clamp.HasCell row column ↔ b.HasCell row column := by
  simp only [HasCell, clamp]
  omega

theorem IsOverlap.hasCell_iff {boxes : List (Box ℤ)} {b : Box ℤ} (hb : IsOverlap some boxes b)
    (row column : ℤ) : b.HasCell row column ↔ ∀ c ∈ boxes, c.HasCell row column := by
  constructor
  · rintro ⟨⟨hbottom, htop⟩, hleft, hright⟩ c hc
    obtain ⟨hl, hbo, hr, ht⟩ := hb.bounds hc
    exact ⟨⟨hbo.trans hbottom, htop.trans_le ht⟩, hl.trans hleft, hright.trans_le hr⟩
  · intro h
    obtain ⟨left, hleft, hleft'⟩ := mem_numbersAt_some.1 hb.left.1
    obtain ⟨bottom, hbottom, hbottom'⟩ := mem_numbersAt_some.1 hb.bottom.1
    obtain ⟨right, hright, hright'⟩ := mem_numbersAt_some.1 hb.right.1
    obtain ⟨top, htop, htop'⟩ := mem_numbersAt_some.1 hb.top.1
    refine ⟨⟨?_, ?_⟩, ?_, ?_⟩
    · exact hbottom' ▸ (h bottom hbottom).1.1
    · exact htop' ▸ (h top htop).1.2
    · exact hleft' ▸ (h left hleft).2.1
    · exact hright' ▸ (h right hright).2.2

end Box

namespace Grid

open scoped Exact

variable {K : Type} [Field K] [LinearOrder K] [IsStrictOrderedRing K] [FloorRing K]

/-- The affine map `cell` takes the unit square onto a pixel of the grid. -/
def HasPixel (g : Grid K) (cell : Affine K) : Prop :=
  ∃ row column : ℕ, row < g.height ∧ column < g.width ∧
    cell = g.affine * .translation (column : K) (row : K)

omit [IsStrictOrderedRing K] in
/-- The pixels of a window are the cells between its sides, as cells of the grid it belongs to. -/
theorem hasPixel_iff {reference g : Grid K} {w : Window}
    (haffine : g.affine = shifted reference.affine w.column w.row) (hheight : g.height = w.height)
    (hwidth : g.width = w.width) (cell : Affine K) :
    g.HasPixel cell ↔
      ∃ row column : ℤ, w.sides.HasCell row column ∧
        cell = shifted reference.affine column row := by
  simp only [Box.HasCell, Window.sides]
  constructor
  · rintro ⟨row, column, hrow, hcolumn, rfl⟩
    refine ⟨w.row + row, w.column + column, ?_, ?_⟩
    · omega
    · rw [← shifted_shifted, ← haffine, shifted_natCast]
  · rintro ⟨row, column, hcell, rfl⟩
    refine ⟨(row - w.row).toNat, (column - w.column).toNat, ?_, ?_, ?_⟩
    · omega
    · omega
    · have hrow : ((row - w.row).toNat : ℤ) = row - w.row := by omega
      have hcolumn : ((column - w.column).toNat : ℤ) = column - w.column := by omega
      rw [← shifted_natCast, hrow, hcolumn, haffine, shifted_shifted, add_sub_cancel,
        add_sub_cancel]

theorem hasPixel_iff_of_onLattice {reference g : Grid K}
    (href : reference.affine.inverse?.isSome = true) (hg : reference.OnLattice g)
    (cell : Affine K) :
    g.HasPixel cell ↔
      ∃ row column : ℤ, (reference.windowIn g).sides.HasCell row column ∧
        cell = shifted reference.affine column row :=
  hasPixel_iff (affine_eq_shifted_windowIn href hg) rfl rfl cell

/-- A cell of the lattice lies in a grid exactly when it lies between the sides of its window. -/
theorem hasPixel_shifted_iff {reference g : Grid K}
    (href : reference.affine.inverse?.isSome = true) (hg : reference.OnLattice g)
    (row column : ℤ) :
    g.HasPixel (shifted reference.affine column row) ↔
      (reference.windowIn g).sides.HasCell row column := by
  rw [hasPixel_iff_of_onLattice href hg]
  constructor
  · rintro ⟨row', column', hcell, heq⟩
    obtain ⟨rfl, rfl⟩ := shifted_inj href heq
    exact hcell
  · intro hcell
    exact ⟨row, column, hcell, rfl⟩

theorem sides_ofSides_clamp (b : Box ℤ) :
    (Window.ofSides b.clamp).sides = b.clamp :=
  Window.sides_ofSides (le_max_left _ _) (le_max_left _ _)

/-- The cells of the common box are those that all the grids have. -/
theorem hasPixel_overlap_iff {reference : Grid K} {rest : List (Grid K)} {b : Box ℤ}
    (href : reference.affine.inverse?.isSome = true)
    (hgrids : ∀ g ∈ reference :: rest, reference.OnLattice g)
    (hb : Box.IsOverlap some (reference.sidesIn (reference :: rest)) b) (cell : Affine K) :
    (reference.window (.ofSides b.clamp)).HasPixel cell ↔
      ∀ g ∈ reference :: rest, g.HasPixel cell := by
  have hcommon (row column : ℤ) :
      b.clamp.HasCell row column ↔
        ∀ g ∈ reference :: rest, (reference.windowIn g).sides.HasCell row column := by
    rw [Box.hasCell_clamp, hb.hasCell_iff]
    unfold sidesIn
    exact List.forall_mem_map
  rw [hasPixel_iff (affine_window reference (.ofSides b.clamp)) rfl rfl cell, sides_ofSides_clamp]
  constructor
  · rintro ⟨row, column, hcell, rfl⟩ g hg
    rw [hasPixel_shifted_iff href (hgrids g hg)]
    exact (hcommon row column).1 hcell g hg
  · intro h
    -- the reference grid has the cell, so it is one of the lattice
    obtain ⟨row, column, -, rfl⟩ :=
      (hasPixel_iff_of_onLattice href (hgrids _ List.mem_cons_self) cell).1
        (h _ List.mem_cons_self)
    refine ⟨row, column, (hcommon row column).2 fun g hg => ?_, rfl⟩
    exact (hasPixel_shifted_iff href (hgrids g hg) row column).1 (h g hg)

omit [IsStrictOrderedRing K] in
theorem exists_hasPixel_iff (g : Grid K) :
    (∃ cell, g.HasPixel cell) ↔ g.width ≠ 0 ∧ g.height ≠ 0 := by
  constructor
  · rintro ⟨cell, row, column, hrow, hcolumn, -⟩
    omega
  · rintro ⟨hwidth, hheight⟩
    exact ⟨_, 0, 0, by omega, by omega, rfl⟩

/-- Cropping a grid of the lattice to the common box, counted from its own first pixel. -/
theorem crop_common_box {reference g : Grid K} {rest : List (Grid K)} {b : Box ℤ}
    (href : reference.affine.inverse?.isSome = true) (hcrs : (reference.crs == g.crs) = true)
    (hmem : g ∈ reference :: rest)
    (hb : Box.IsOverlap some (reference.sidesIn (reference :: rest)) b) {tx ty : ℤ}
    (hshift : g.affine = reference.affine * .translation (tx : K) (ty : K)) :
    ∃ h, g.crop ⟨.between (b.clamp.bottom - ty) (b.clamp.top - ty),
          .between (b.clamp.left - tx) (b.clamp.right - tx)⟩ = .ok h ∧
      (reference.window (.ofSides b.clamp) == h) = true := by
  -- the common box starts no earlier than the grid, so no bound counts from the far end
  obtain ⟨hleft, hbottom, -, -⟩ := hb.bounds (sides_mem_sidesIn reference hmem)
  rw [windowIn_eq href hshift] at hleft hbottom
  simp only [Window.sides] at hleft hbottom
  have htop : b.bottom ≤ max b.bottom b.top := le_max_left _ _
  have hright : b.left ≤ max b.left b.right := le_max_left _ _
  refine ⟨_, crop_between g ?_ ?_ ?_ ?_, ?_⟩
  · simp only [Box.clamp]
    omega
  · simp only [Box.clamp]
    omega
  · simp only [Box.clamp]
    omega
  · simp only [Box.clamp]
    omega
  · rw [beq_iff]
    refine ⟨?_, ?_, ?_, hcrs⟩
    · simp only [width_window, Window.ofSides, sub_sub_sub_cancel_right]
    · simp only [height_window, Window.ofSides, sub_sub_sub_cancel_right]
    · simp only [affine_window, Window.ofSides]
      rw [hshift, ← shifted_eq_mul, shifted_shifted, add_sub_cancel, add_sub_cancel]

/-- The intersection of grids on one lattice succeeds.  It has the pixels that all of them have, so
it has no rows or no columns exactly when there is none, and it is what cropping any one of them to
the common box gives. -/
theorem intersectionAll_isCommon (first : Grid K) (rest : List (Grid K))
    (hfirst : first.affine.inverse?.isSome = true) (hrest : ∀ g ∈ rest, first.OnLattice g) :
    ∃ i, intersectionAll (first :: rest) = .ok i ∧
      (∀ cell, i.HasPixel cell ↔ ∀ g ∈ first :: rest, g.HasPixel cell) ∧
      ((i.width = 0 ∨ i.height = 0) ↔ ¬∃ cell, ∀ g ∈ first :: rest, g.HasPixel cell) ∧
      ∃ left bottom right top : ℤ,
        commonBox first rest = .ok ⟨left, bottom, right, top⟩ ∧
        ∀ g ∈ first :: rest, ∀ tx ty : ℤ,
          g.affine = first.affine * .translation (tx : K) (ty : K) →
            g.pixelBox first = .ok ⟨tx, ty, tx + (g.width : K), ty + (g.height : K)⟩ ∧
            ∃ h, g.crop ⟨.between (bottom - ty) (top - ty),
                .between (left - tx) (right - tx)⟩ = .ok h ∧ (i == h) = true := by
  have hall := onLattice_cons hrest
  obtain ⟨b, hb, hbox⟩ := commonBox_eq hfirst hrest
  have hpixel := hasPixel_overlap_iff hfirst hall hb
  refine ⟨_, intersectionAll_eq_window hbox, hpixel, ?_, _, _, _, _, hbox, ?_⟩
  · have hsome := exists_hasPixel_iff (first.window (.ofSides b.clamp))
    simp only [hpixel] at hsome
    rw [hsome]
    tauto
  · intro g hg tx ty hshift
    refine ⟨?_, crop_common_box hfirst (hall g hg).1 hg hb hshift⟩
    rw [pixelBox_eq hfirst (hall g hg), windowIn_eq hfirst hshift]
    simp only [Box.cast, Window.sides, Int.cast_add, Int.cast_natCast]

/-- The theorem at grids that share pixels with the first, and at one that lies apart from it in
both directions. -/
theorem intersectionAll_isCommon_northUp :
    let first := northUp 6 6 0 0
    let rest := [northUp 6 6 2 3, northUp 3 2 (-20) 40]
    first.affine.inverse?.isSome = true ∧ (∀ g ∈ rest, first.OnLattice g) ∧
      ∃ i, intersectionAll (first :: rest) = .ok i ∧
        (∀ cell, i.HasPixel cell ↔ ∀ g ∈ first :: rest, g.HasPixel cell) ∧
        ((i.width = 0 ∨ i.height = 0) ↔ ¬∃ cell, ∀ g ∈ first :: rest, g.HasPixel cell) ∧
        ∃ left bottom right top : ℤ,
          commonBox first rest = .ok ⟨left, bottom, right, top⟩ ∧
          ∀ g ∈ first :: rest, ∀ tx ty : ℤ,
            g.affine = first.affine * .translation (tx : ℚ) (ty : ℚ) →
              g.pixelBox first = .ok ⟨tx, ty, tx + (g.width : ℚ), ty + (g.height : ℚ)⟩ ∧
              ∃ h, g.crop ⟨.between (bottom - ty) (top - ty),
                  .between (left - tx) (right - tx)⟩ = .ok h ∧ (i == h) = true := by
  intro first rest
  have hfirst := inverse?_isSome_northUp 6 6 0 0
  have hrest : ∀ g ∈ rest, first.OnLattice g := by
    intro g hg
    simp only [rest, List.mem_cons, List.not_mem_nil, or_false] at hg
    rcases hg with rfl | rfl <;> exact onLattice_northUp _ _ _ _ _ _ _ _
  exact ⟨hfirst, hrest, intersectionAll_isCommon first rest hfirst hrest⟩

end Grid

end Graticule
