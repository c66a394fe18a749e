import Graticule.Proofs.Grid.Frame

/-!
# How union and intersection absorb each other

A grid intersected with a union of which it is an operand is the grid again.  The other way round an
intersection without pixels matters: it starts where the later of the two grids starts, and a union
reaches as far as that place.  So `absorption_iff` says that a grid absorbs its intersection with
another one exactly when that one does not begin past its last row or column.
-/

namespace Graticule.Grid

open scoped Exact

variable {K : Type} [Field K] [LinearOrder K] [IsStrictOrderedRing K] [FloorRing K] {g h : Grid K}

/-- The grid itself is what it has in common with a union of which it is an operand. -/
theorem exists_intersection_union (hinverse : g.affine.inverse?.isSome = true)
    (hh : g.OnLattice h) :
    ∃ u i, g.union h = .ok u ∧ g.intersection u = .ok i ∧ (i == g) = true := by
  have hg := g.occupies_self
  obtain ⟨u, hunion, hucrs, hu⟩ := union_occupies hinverse hg (hh.occupies hinverse) hh.1
  obtain ⟨i, hintersection, hicrs, hi⟩ :=
    intersection_occupies hinverse hg hu (hucrs ▸ Crs.beq_refl _)
  refine ⟨u, i, hunion, hintersection, Occupies.beq ?_ hg (hicrs ▸ Crs.beq_refl _)⟩
  convert hi using 1
  simp only [Box.clamp, Box.mk.injEq]
  omega

/-- A union with an intersection starts with the grid, and is as large as the grid or reaches to the
first row or column of the other one. -/
theorem exists_union_intersection (hinverse : g.affine.inverse?.isSome = true)
    (hcrs : (g.crs == h.crs) = true) {columns rows : ℤ}
    (hshift : h.affine = g.affine * .translation (columns : K) (rows : K)) :
    ∃ i u, g.intersection h = .ok i ∧ g.union i = .ok u ∧ u.crs = g.crs ∧
      u.Occupies g.affine ⟨0, 0, max (g.width : ℤ) columns, max (g.height : ℤ) rows⟩ := by
  have hg := g.occupies_self
  have hh : h.Occupies g.affine ⟨columns, rows, columns + h.width, rows + h.height⟩ :=
    ⟨hshift, rfl, rfl⟩
  obtain ⟨i, hintersection, hicrs, hi⟩ := intersection_occupies hinverse hg hh hcrs
  obtain ⟨u, hunion, hucrs, hu⟩ := union_occupies hinverse hg hi (hicrs ▸ Crs.beq_refl _)
  refine ⟨i, u, hintersection, hunion, hucrs, ?_⟩
  convert hu using 1
  simp only [Box.clamp, Box.mk.injEq]
  omega

omit [IsStrictOrderedRing K] in
theorem Occupies.beq_self_iff {u : Grid K} {width height : ℤ} (hcrs : u.crs = g.crs)
    (hu : u.Occupies g.affine ⟨0, 0, width, height⟩) :
    (u == g) = true ↔ width = g.width ∧ height = g.height := by
  have haffine : u.affine = g.affine := by rw [hu.affine, shifted_zero]
  have hwidth : (u.width : ℤ) = width := by simpa using hu.width
  have hheight : (u.height : ℤ) = height := by simpa using hu.height
  rw [beq_iff, hcrs]
  simp only [haffine, Crs.beq_refl, and_true]
  omega

/-- Of two grids on one lattice, the first is what it has in common with their union.  Its union with
their intersection has its first pixel and reaches to the first row and column of the second if
these are past its end; so it is the first grid again exactly when they are not. -/
theorem absorption_iff (g h : Grid K) (hinverse : g.affine.inverse?.isSome = true)
    (hcrs : (g.crs == h.crs) = true) (columns rows : ℤ)
    (hshift : h.affine = g.affine * .translation (columns : K) (rows : K)) :
    (∃ u i, g.union h = .ok u ∧ g.intersection u = .ok i ∧ (i == g) = true) ∧
      ∃ i u, g.intersection h = .ok i ∧ g.union i = .ok u ∧ u.crs = g.crs ∧
        u.affine = g.affine ∧ (u.width : ℤ) = max (g.width : ℤ) columns ∧
        (u.height : ℤ) = max (g.height : ℤ) rows ∧
        ((u == g) = true ↔ columns ≤ g.width ∧ rows ≤ g.height) := by
  refine ⟨exists_intersection_union hinverse ⟨hcrs, columns, rows, hshift⟩, ?_⟩
  obtain ⟨i, u, hi, hunion, hucrs, hu⟩ := exists_union_intersection hinverse hcrs hshift
  refine ⟨i, u, hi, hunion, hucrs, ?_, ?_, ?_, ?_⟩
  · rw [hu.affine, shifted_zero]
  · simpa using hu.width
  · simpa using hu.height
  · rw [hu.beq_self_iff hucrs, max_eq_left_iff, max_eq_left_iff]

/-- The theorem at a grid and one that begins to the right of it and above. -/
theorem absorption_iff_apart :
    let g := northUp 4 4 0 0
    let h := northUp 4 4 10 (-2)
    g.affine.inverse?.isSome = true ∧ (g.crs == h.crs) = true ∧
      h.affine = g.affine * .translation ((10 : ℤ) : ℚ) ((-2 : ℤ) : ℚ) ∧
      (∃ u i, g.union h = .ok u ∧ g.intersection u = .ok i ∧ (i == g) = true) ∧
        ∃ i u, g.intersection h = .ok i ∧ g.union i = .ok u ∧ u.crs = g.crs ∧
          u.affine = g.affine ∧ (u.width : ℤ) = max (g.width : ℤ) 10 ∧
          (u.height : ℤ) = max (g.height : ℤ) (-2) ∧
          ((u == g) = true ↔ (10 : ℤ) ≤ g.width ∧ (-2 : ℤ) ≤ g.height) := by
  intro g h
  have hinverse := inverse?_isSome_northUp 4 4 0 0
  have hshift := affine_northUp 4 4 4 4 0 0 10 (-2)
  exact ⟨hinverse, Crs.beq_refl _, hshift,
    absorption_iff g h hinverse (Crs.beq_refl _) 10 (-2) hshift⟩

/-- Apart in the direction of the columns: the union reaches over the gap. -/
theorem not_absorption_apart :
    ¬∀ g h : Grid ℚ, g.affine.inverse?.isSome = true → g.OnLattice h →
      (∃ u i, g.union h = .ok u ∧ g.intersection u = .ok i ∧ (i == g) = true) ∧
        ∃ i u, g.intersection h = .ok i ∧ g.union i = .ok u ∧ (u == g) = true := by
  intro habsorbs
  have hinverse := inverse?_isSome_northUp 4 4 0 0
  obtain ⟨-, i, u, hi, hunion, hbeq⟩ :=
    habsorbs _ (northUp 4 4 10 0) hinverse (onLattice_northUp 4 4 _ _ _ _ _ _)
  have hshift := affine_northUp 4 4 4 4 0 0 10 0
  obtain ⟨i', u', hi', hunion', hcrs, hu'⟩ := exists_union_intersection (h := northUp 4 4 10 0)
    hinverse (Crs.beq_refl _) hshift
  obtain rfl : i' = i := Except.ok.inj (hi'.symm.trans hi)
  obtain rfl : u' = u := Except.ok.inj (hunion'.symm.trans hunion)
  obtain ⟨hwidth, -⟩ := (hu'.beq_self_iff hcrs).1 hbeq
  norm_num [northUp] at hwidth

end Graticule.Grid
