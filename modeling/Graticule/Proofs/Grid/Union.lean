import Graticule.Proofs.Grid.Lattice

/-!
# The union of grids is their least cover

A grid lies in another one when it is a selection of rows and columns within that one:
`Grid.IsCropAt`.  The union of grids on one lattice is the least grid in which all of them lie
(`unionAll_isLeastCover`).  That it is least has two sides: each of its edges is an edge of one of the
grids, and it lies in every grid in which all of them lie.
-/

namespace Graticule.Grid

open scoped Exact

variable {K : Type} [Field K] [LinearOrder K] [IsStrictOrderedRing K] [FloorRing K]

/-- `g` is the selection from `u`, within its rows and columns, that starts at a row and a column
and has the size of `g`. -/
def IsCropAt (g u : Grid K) (row column : ℕ) : Prop :=
  row + g.height ≤ u.height ∧ column + g.width ≤ u.width ∧
    ∃ h, u.crop ⟨.between row (row + g.height), .between column (column + g.width)⟩ = .ok h ∧
      (h == g) = true

omit [IsStrictOrderedRing K] in
theorem isCropAt_iff (g u : Grid K) (row column : ℕ) :
    g.IsCropAt u row column ↔
      row + g.height ≤ u.height ∧ column + g.width ≤ u.width ∧
        shifted u.affine column row = g.affine ∧ (u.crs == g.crs) = true := by
  have hcrop : u.crop ⟨.between row (row + g.height), .between column (column + g.width)⟩ =
      .ok (u.window ⟨row, column, g.height, g.width⟩) := by
    rw [crop_between u (by omega) (by omega) (by omega) (by omega)]
    simp
  unfold IsCropAt
  simp [hcrop, beq_iff]

/-- Where a grid of the lattice lies in a third grid, when the reference grid lies there too. -/
theorem IsCropAt.offset {reference g v : Grid K} (href : reference.affine.inverse?.isSome = true)
    (hg : reference.OnLattice g) {row₀ column₀ row column : ℕ}
    (h₀ : reference.IsCropAt v row₀ column₀) (h : g.IsCropAt v row column) :
    row₀ + (reference.windowIn g).row = row ∧ column₀ + (reference.windowIn g).column = column := by
  obtain ⟨-, -, haffine₀, -⟩ := (isCropAt_iff _ _ _ _).1 h₀
  obtain ⟨-, -, haffine, -⟩ := (isCropAt_iff _ _ _ _).1 h
  have hv : v.affine.inverse?.isSome = true := by
    rwa [← haffine₀, inverse?_isSome_shifted] at href
  rw [affine_eq_shifted_windowIn href hg, ← haffine₀, shifted_shifted] at haffine
  obtain ⟨hcolumn, hrow⟩ := shifted_inj hv haffine
  exact ⟨hrow.symm, hcolumn.symm⟩

omit [IsStrictOrderedRing K] in
/-- On one lattice a grid lies in another one when its window lies between the sides of that of the
other. -/
theorem isCropAt_of_sides {g u : Grid K} {t : Affine K} {v w : Window}
    (hg : g.affine = shifted t w.column w.row) (hgsize : g.height = w.height ∧ g.width = w.width)
    (hu : u.affine = shifted t v.column v.row) (husize : u.height = v.height ∧ u.width = v.width)
    (hcrs : (u.crs == g.crs) = true)
    (hsides : v.sides.left ≤ w.sides.left ∧ v.sides.bottom ≤ w.sides.bottom ∧
      w.sides.right ≤ v.sides.right ∧ w.sides.top ≤ v.sides.top) :
    g.IsCropAt u (w.row - v.row).toNat (w.column - v.column).toNat := by
  obtain ⟨hleft, hbottom, hright, htop⟩ := hsides
  simp only [Window.sides] at hleft hbottom hright htop
  rw [isCropAt_iff]
  refine ⟨by omega, by omega, ?_, hcrs⟩
  rw [hu, shifted_shifted, hg]
  congr 1 <;> omega

section
variable {reference : Grid K} {grids : List (Grid K)} {b : Box ℤ}

omit [IsStrictOrderedRing K] in
theorem sides_ofSides_hull (hb : Box.IsHull some (reference.sidesIn grids) b)
    (hmem : reference ∈ grids) : (Window.ofSides b).sides = b := by
  obtain ⟨hleft, hbottom, hright, htop⟩ := hb.bounds (sides_mem_sidesIn reference hmem)
  simp only [Window.sides] at hleft hbottom hright htop
  apply Window.sides_ofSides <;> omega

/-- Every grid lies in the grid of the hull, at the place of its window. -/
theorem isCropAt_hull (href : reference.affine.inverse?.isSome = true) (hmem : reference ∈ grids)
    (hb : Box.IsHull some (reference.sidesIn grids) b) {g : Grid K} (hgrid : g ∈ grids)
    (hg : reference.OnLattice g) :
    g.IsCropAt (reference.window (.ofSides b))
      ((reference.windowIn g).row - b.bottom).toNat
      ((reference.windowIn g).column - b.left).toNat := by
  refine isCropAt_of_sides (v := .ofSides b) (affine_eq_shifted_windowIn href hg) ⟨rfl, rfl⟩
    (affine_window _ _) ⟨rfl, rfl⟩ hg.1 ?_
  rw [sides_ofSides_hull hb hmem]
  exact hb.bounds (sides_mem_sidesIn reference hgrid)

/-- The grid of the hull lies in every grid in which the reference grid and all others lie. -/
theorem isCropAt_of_forall_isCropAt (href : reference.affine.inverse?.isSome = true)
    (hmem : reference ∈ grids) (hgrids : ∀ g ∈ grids, reference.OnLattice g)
    (hb : Box.IsHull some (reference.sidesIn grids) b) {v : Grid K}
    (hv : ∀ g ∈ grids, ∃ row column, g.IsCropAt v row column) :
    ∃ row column, (reference.window (.ofSides b)).IsCropAt v row column := by
  obtain ⟨row₀, column₀, h₀⟩ := hv reference hmem
  obtain ⟨-, -, haffine₀, hcrs₀⟩ := (isCropAt_iff _ _ _ _).1 h₀
  -- the sides of `v` in the coordinates of the reference grid
  let outer : Box ℤ := ⟨-column₀, -row₀, v.width - column₀, v.height - row₀⟩
  have hwithin : ∀ c ∈ reference.sidesIn grids,
      outer.left ≤ c.left ∧ outer.bottom ≤ c.bottom ∧ c.right ≤ outer.right ∧
        c.top ≤ outer.top := by
    intro c hc
    obtain ⟨g, hg, rfl⟩ := List.mem_map.1 hc
    obtain ⟨row, column, h⟩ := hv g hg
    obtain ⟨hrow, hcolumn⟩ := h₀.offset href (hgrids g hg) h
    obtain ⟨hheight, hwidth, -, -⟩ := (isCropAt_iff _ _ _ _).1 h
    simp only [outer, Window.sides, windowIn] at hrow hcolumn ⊢
    omega
  obtain ⟨hleft, hbottom, hright, htop⟩ := hb.within hwithin
  simp only [outer] at hleft hbottom hright htop
  refine ⟨_, _, isCropAt_of_sides (t := reference.affine) (w := .ofSides b)
    (v := ⟨-row₀, -column₀, v.height, v.width⟩) (affine_window _ _) ⟨rfl, rfl⟩ ?_ ⟨rfl, rfl⟩ hcrs₀
    ?_⟩
  · rw [← haffine₀, shifted_shifted, add_neg_cancel, add_neg_cancel, shifted_zero]
  · rw [sides_ofSides_hull hb hmem]
    simp only [Window.sides]
    omega

end

/-- `u` is the least grid in which all of some grids lie: each of its four edges is an edge of one
of them, and it lies in every grid in which all of them lie. -/
structure IsLeastCover (grids : List (Grid K)) (u : Grid K) : Prop where
  covers : ∀ g ∈ grids, ∃ row column, g.IsCropAt u row column
  firstRow : ∃ g ∈ grids, ∃ column, g.IsCropAt u 0 column
  firstColumn : ∃ g ∈ grids, ∃ row, g.IsCropAt u row 0
  lastRow : ∃ g ∈ grids, ∃ row column, g.IsCropAt u row column ∧ row + g.height = u.height
  lastColumn : ∃ g ∈ grids, ∃ row column, g.IsCropAt u row column ∧ column + g.width = u.width
  least : ∀ v : Grid K, (∀ g ∈ grids, ∃ row column, g.IsCropAt v row column) →
    ∃ row column, u.IsCropAt v row column

theorem isLeastCover_hull {reference : Grid K} {grids : List (Grid K)} {b : Box ℤ}
    (href : reference.affine.inverse?.isSome = true) (hmem : reference ∈ grids)
    (hgrids : ∀ g ∈ grids, reference.OnLattice g)
    (hb : Box.IsHull some (reference.sidesIn grids) b) :
    IsLeastCover grids (reference.window (.ofSides b)) where
  covers := fun g hg => ⟨_, _, isCropAt_hull href hmem hb hg (hgrids g hg)⟩
  firstRow := by
    obtain ⟨g, hg, hside⟩ := exists_grid_of_side hb.bottom.1
    simp only [Window.sides] at hside
    have hrow : ((reference.windowIn g).row - b.bottom).toNat = 0 := by omega
    exact ⟨g, hg, _, hrow ▸ isCropAt_hull href hmem hb hg (hgrids g hg)⟩
  firstColumn := by
    obtain ⟨g, hg, hside⟩ := exists_grid_of_side hb.left.1
    simp only [Window.sides] at hside
    have hcolumn : ((reference.windowIn g).column - b.left).toNat = 0 := by omega
    exact ⟨g, hg, _, hcolumn ▸ isCropAt_hull href hmem hb hg (hgrids g hg)⟩
  lastRow := by
    obtain ⟨g, hg, hside⟩ := exists_grid_of_side hb.top.1
    obtain ⟨-, hbottom, -, -⟩ := hb.bounds (sides_mem_sidesIn reference hg)
    refine ⟨g, hg, _, _, isCropAt_hull href hmem hb hg (hgrids g hg), ?_⟩
    simp only [Window.sides, windowIn, height_window, Window.ofSides] at hside hbottom ⊢
    omega
  lastColumn := by
    obtain ⟨g, hg, hside⟩ := exists_grid_of_side hb.right.1
    obtain ⟨hleft, -, -, -⟩ := hb.bounds (sides_mem_sidesIn reference hg)
    refine ⟨g, hg, _, _, isCropAt_hull href hmem hb hg (hgrids g hg), ?_⟩
    simp only [Window.sides, windowIn, width_window, Window.ofSides] at hside hleft ⊢
    omega
  least := fun _ hv => isCropAt_of_forall_isCropAt href hmem hgrids hb hv

/-- The union of grids on one lattice succeeds; it has the pixel size and the system of the first and
is the least cover of them. -/
theorem unionAll_isLeastCover (first : Grid K) (rest : List (Grid K))
    (hfirst : first.affine.inverse?.isSome = true) (hrest : ∀ g ∈ rest, first.OnLattice g) :
    ∃ u, unionAll (first :: rest) = .ok u ∧ u.resolution = first.resolution ∧
      u.crs = first.crs ∧ IsLeastCover (first :: rest) u := by
  obtain ⟨b, hb, hunion⟩ := unionAll_eq_window hfirst hrest
  have hall := onLattice_cons hrest
  exact ⟨_, hunion, first.resolution_window _, rfl,
    isLeastCover_hull hfirst List.mem_cons_self hall hb⟩

/-- The theorem at a grid, one that lies up and to the left of it, and one without columns. -/
theorem unionAll_isLeastCover_northUp :
    let first := northUp 2 2 5 5
    let rest := [northUp 2 3 (-1) 0, northUp 0 2 9 3]
    first.affine.inverse?.isSome = true ∧ (∀ g ∈ rest, first.OnLattice g) ∧
      ∃ u, unionAll (first :: rest) = .ok u ∧ u.resolution = first.resolution ∧
        u.crs = first.crs ∧ IsLeastCover (first :: rest) u := by
  intro first rest
  have hfirst := inverse?_isSome_northUp 2 2 5 5
  have hrest : ∀ g ∈ rest, first.OnLattice g := by
    intro g hg
    simp only [rest, List.mem_cons, List.not_mem_nil, or_false] at hg
    rcases hg with rfl | rfl <;> exact onLattice_northUp _ _ _ _ _ _ _ _
  exact ⟨hfirst, hrest, unionAll_isLeastCover first rest hfirst hrest⟩

end Graticule.Grid
