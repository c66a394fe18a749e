import Graticule.Proofs.Grid.Lattice

/-!
# How far accepted grids drift from the lattice

A grid is taken for one of the lattice of a reference grid when its offset and its pixel size agree
with that grid up to tolerances (`pixelBox_eq_ok_iff`).  The pixel size may differ a little, so the
pixels drift from those of the reference grid the further the longer the grid is: `Grid.drift`
bounds the distance, and it is half a pixel after some fifty thousand pixels.

`LiesAt` says that pixels lie where others do up to the drift.  An accepted grid lies at the place it
is taken for, and in unions and intersections of accepted grids every operand does.
-/

namespace Graticule.Grid

open scoped Exact

variable {K : Type} [Field K] [LinearOrder K] [IsStrictOrderedRing K] [FloorRing K]

/-- How much the ratio of two pixel sizes may differ from one. -/
def scaleTolerance : K := 1 / 10 ^ 8 + 1 / 10 ^ 5

/-- The distance by which the `n`th pixel edge of an accepted grid may miss that of the reference
grid. -/
def drift (n : K) : K := wholePixelTolerance + scaleTolerance * n

omit [IsStrictOrderedRing K] in
theorem wholePixelTolerance_eq : (wholePixelTolerance : K) = 1 / 10 ^ 8 := by
  rw [wholePixelTolerance, Exact.decimal_eq, Nat.cast_one]

theorem drift_lt_half {n : K} (hn : n ≤ 49950) : drift n < 1 / 2 := by
  rw [drift, wholePixelTolerance_eq, scaleTolerance]
  linarith

omit [IsStrictOrderedRing K] in
theorem isClose_iff (x y : K) :
    Scalar.isClose x y = true ↔ |x - y| ≤ 1 / 10 ^ 8 + 1 / 10 ^ 5 * |y| := by
  unfold Scalar.isClose
  rw [decide_eq_true_iff, Exact.decimal_eq, Exact.decimal_eq, Nat.cast_one]
  rfl

omit [IsStrictOrderedRing K] in
theorem isNearlyWhole_iff (x tolerance : K) :
    Scalar.isNearlyWhole x tolerance = true ↔ |x - Exact.nearest x| < tolerance := by
  unfold Scalar.isNearlyWhole
  rw [decide_eq_true_iff]
  rfl

/-! ## Which grids are accepted -/

/-- The map from the pixel coordinates of `g` to those of the reference grid. -/
def relative (reference g : Grid K) : Affine K :=
  ⟨g.affine.a / reference.affine.a, 0, (g.affine.c - reference.affine.c) / reference.affine.a, 0,
    g.affine.e / reference.affine.e, (g.affine.f - reference.affine.f) / reference.affine.e⟩

theorem exists_inverse_mul_eq_relative {reference : Grid K}
    (href : reference.affine.inverse?.isSome = true) :
    ∃ v, reference.affine.inverse? = some v ∧ ∀ g : Grid K, v * g.affine = reference.relative g := by
  obtain ⟨v, hv, hcancel⟩ := Affine.inverse_mul_cancel href
  obtain ⟨ha, he⟩ := scales_ne_zero href
  refine ⟨v, hv, fun g => ?_⟩
  have hmap : g.affine = reference.affine * reference.relative g := by
    rw [Affine.mul_eq]
    apply Affine.ext <;>
      simp [relative, reference.shears_eq_zero, g.shears_eq_zero, mul_div_cancel₀ _ ha,
        mul_div_cancel₀ _ he]
  rw [hmap, hcancel]

/-- The grid agrees with the lattice of the reference grid up to the tolerances. -/
structure IsNearLattice (reference g : Grid K) : Prop where
  crs : (reference.crs == g.crs) = true
  inverse : reference.affine.inverse?.isSome = true
  scaleX : |(reference.relative g).a - 1| ≤ scaleTolerance
  scaleY : |(reference.relative g).e - 1| ≤ scaleTolerance
  offsetX : |(reference.relative g).c - (reference.windowIn g).column| < wholePixelTolerance
  offsetY : |(reference.relative g).f - (reference.windowIn g).row| < wholePixelTolerance

theorem isWholeShift_relative_iff (reference g : Grid K) :
    isWholeShift (reference.relative g) = true ↔
      (|(reference.relative g).a - 1| ≤ scaleTolerance ∧
        |(reference.relative g).e - 1| ≤ scaleTolerance) ∧
      |(reference.relative g).c - (reference.windowIn g).column| < wholePixelTolerance ∧
        |(reference.relative g).f - (reference.windowIn g).row| < wholePixelTolerance := by
  have hb : Scalar.isClose (reference.relative g).b 0 = true := Exact.isClose_self _
  have hd : Scalar.isClose (reference.relative g).d 0 = true := Exact.isClose_self _
  have hone (x : K) : Scalar.isClose x 1 = true ↔ |x - 1| ≤ scaleTolerance := by
    rw [isClose_iff, abs_one, mul_one, scaleTolerance]
  unfold isWholeShift
  simp only [Exact.numeral_eq, Nat.cast_one, Nat.cast_zero, hb, hd, Bool.and_true,
    Bool.and_eq_true, hone, isNearlyWhole_iff, and_assoc]
  rfl

omit [IsStrictOrderedRing K] in
theorem sides_windowIn_cast (reference g : Grid K) :
    ((reference.windowIn g).sides.cast : Box K) =
      ⟨Scalar.round (reference.relative g).c, Scalar.round (reference.relative g).f,
        Scalar.round (reference.relative g).c + Scalar.ofNat g.width,
        Scalar.round (reference.relative g).f + Scalar.ofNat g.height⟩ := by
  simp only [Box.cast, Window.sides, Int.cast_add, Int.cast_natCast]
  rfl

/-- Which grids are accepted, and where. -/
theorem pixelBox_eq_ok_iff {g reference : Grid K} {b : Box K} :
    g.pixelBox reference = .ok b ↔
      reference.IsNearLattice g ∧ b = (reference.windowIn g).sides.cast := by
  unfold pixelBox
  cases hcrs : reference.crs == g.crs with
  | false =>
    refine ⟨fun h => by simp at h, fun ⟨h, _⟩ => ?_⟩
    rw [h.crs] at hcrs
    cases hcrs
  | true =>
    cases hinverse : reference.affine.inverse?.isSome with
    | false =>
      have hnone : reference.affine.inverse? = none := by
        rwa [Option.isSome_eq_false_iff, Option.isNone_iff_eq_none] at hinverse
      rw [hnone]
      refine ⟨fun h => by simp at h, fun ⟨h, _⟩ => ?_⟩
      rw [h.inverse] at hinverse
      cases hinverse
    | true =>
      obtain ⟨v, hv, hrelative⟩ := exists_inverse_mul_eq_relative hinverse
      rw [hv]
      simp only [Bool.not_true, Bool.false_eq_true, if_false, hrelative]
      have hshift := isWholeShift_relative_iff reference g
      rw [sides_windowIn_cast]
      split_ifs with hwhole
      · obtain ⟨⟨hx, hy⟩, hcolumn, hrow⟩ := hshift.1 hwhole
        have hnear : reference.IsNearLattice g := ⟨hcrs, hinverse, hx, hy, hcolumn, hrow⟩
        simp only [Except.ok.injEq, hnear, true_and]
        exact eq_comm
      · refine ⟨fun h => (by simp at h), fun ⟨h, _⟩ => ?_⟩
        exact absurd (hshift.2 ⟨⟨h.scaleX, h.scaleY⟩, h.offsetX, h.offsetY⟩) hwhole

/-! ## Where accepted grids lie -/

/-- The pixels of `g` lie so many columns and rows from those of the reference grid, up to the drift
of their own column and row. -/
def LiesAt (g reference : Grid K) (columns rows : ℤ) : Prop :=
  ∃ v, reference.affine.inverse? = some v ∧ ∀ p : Position K, 0 ≤ p.x → 0 ≤ p.y →
    |((v * g.affine).apply p).x - (columns + p.x)| < drift p.x ∧
      |((v * g.affine).apply p).y - (rows + p.y)| < drift p.y

theorem abs_sub_lt_drift {scale offset place x : K} (hscale : |scale - 1| ≤ scaleTolerance)
    (hoffset : |offset - place| < wholePixelTolerance) (hx : 0 ≤ x) :
    |scale * x + offset - (place + x)| < drift x :=
  calc |scale * x + offset - (place + x)|
      = |(offset - place) + (scale - 1) * x| := by congr 1; ring
    _ ≤ |offset - place| + |(scale - 1) * x| := abs_add_le _ _
    _ = |offset - place| + |scale - 1| * x := by rw [abs_mul, abs_of_nonneg hx]
    _ < wholePixelTolerance + scaleTolerance * x :=
      add_lt_add_of_lt_of_le hoffset (mul_le_mul_of_nonneg_right hscale hx)

theorem relative_window {reference : Grid K} (href : reference.affine.inverse?.isSome = true)
    (w : Window) (g : Grid K) :
    (reference.window w).relative g =
      ⟨(reference.relative g).a, 0, (reference.relative g).c - w.column, 0,
        (reference.relative g).e, (reference.relative g).f - w.row⟩ := by
  obtain ⟨ha, he⟩ := scales_ne_zero href
  obtain ⟨hb, hd⟩ := reference.shears_eq_zero
  unfold relative
  rw [affine_window, shifted_eq, hb, hd]
  apply Affine.ext <;> simp only [zero_mul, add_zero, zero_add]
  · field_simp
    ring
  · field_simp
    ring

theorem IsNearLattice.liesAt_window {reference g : Grid K} (h : reference.IsNearLattice g)
    (w : Window) :
    g.LiesAt (reference.window w) ((reference.windowIn g).column - w.column)
      ((reference.windowIn g).row - w.row) := by
  have hinverse : (reference.window w).affine.inverse?.isSome = true := by
    rw [affine_window, inverse?_isSome_shifted, h.inverse]
  obtain ⟨v, hv, hrelative⟩ := exists_inverse_mul_eq_relative hinverse
  refine ⟨v, hv, fun p hx hy => ?_⟩
  rw [hrelative, relative_window h.inverse]
  simp only [Affine.apply, zero_mul, add_zero, zero_add]
  push_cast
  constructor
  · apply abs_sub_lt_drift h.scaleX _ hx
    rw [sub_sub_sub_cancel_right]
    exact h.offsetX
  · apply abs_sub_lt_drift h.scaleY _ hy
    rw [sub_sub_sub_cancel_right]
    exact h.offsetY

theorem IsNearLattice.liesAt {reference g : Grid K} (h : reference.IsNearLattice g) :
    g.LiesAt reference (reference.windowIn g).column (reference.windowIn g).row := by
  have hself := h.liesAt_window ⟨0, 0, reference.height, reference.width⟩
  rw [window_self, sub_zero, sub_zero] at hself
  exact hself

/-! ## Operands of unions and intersections -/

section
variable {first : Grid K} {rest : List (Grid K)}

theorem isNearLattice_of_combinedBox {combine : Box K → Box K → Box K} {b : Box K}
    (h : combinedBox combine first rest = .ok b) : ∀ g ∈ first :: rest, first.IsNearLattice g := by
  obtain ⟨c, hfirst, h⟩ := exists_of_bind_eq_ok h
  obtain ⟨cs, hrest, -⟩ := exists_of_bind_eq_ok h
  intro g hg
  rcases List.mem_cons.1 hg with rfl | hg
  · exact (pixelBox_eq_ok_iff.1 hfirst).1
  · obtain ⟨d, hd⟩ := forall_exists_of_mapM_eq_ok hrest g hg
    exact (pixelBox_eq_ok_iff.1 hd).1

theorem accepts_of_isNearLattice (h : ∀ g ∈ first :: rest, first.IsNearLattice g) :
    ∀ g ∈ first :: rest, first.Accepts g :=
  fun g hg => pixelBox_eq_ok_iff.2 ⟨h g hg, rfl⟩

/-- A union has the place of every operand within it. -/
theorem liesAt_unionAll {grids : List (Grid K)} {u : Grid K} (h : unionAll grids = .ok u) :
    ∀ g ∈ grids, ∃ columns rows : ℕ, columns + g.width ≤ u.width ∧
      rows + g.height ≤ u.height ∧ g.LiesAt u columns rows := by
  obtain - | ⟨first, rest⟩ := grids
  · cases h
  obtain ⟨b, hbox, -⟩ := exists_of_bind_eq_ok h
  have hnear := isNearLattice_of_combinedBox hbox
  obtain ⟨c, hc, hunion⟩ := unionAll_eq_window_of_accepts (accepts_of_isNearLattice hnear)
  obtain rfl := Except.ok.inj (hunion.symm.trans h)
  intro g hg
  obtain ⟨hleft, hbottom, hright, htop⟩ := hc.bounds (sides_mem_sidesIn first hg)
  simp only [Window.sides] at hleft hbottom hright htop
  obtain ⟨columns, hcolumns⟩ := Int.eq_ofNat_of_zero_le (sub_nonneg.2 hleft)
  obtain ⟨rows, hrows⟩ := Int.eq_ofNat_of_zero_le (sub_nonneg.2 hbottom)
  have hwidth : (first.windowIn g).width = g.width := rfl
  have hheight : (first.windowIn g).height = g.height := rfl
  refine ⟨columns, rows, ?_, ?_, ?_⟩
  · simp only [width_window, Window.ofSides]
    omega
  · simp only [height_window, Window.ofSides]
    omega
  · rw [← hcolumns, ← hrows]
    exact (hnear g hg).liesAt_window (.ofSides c)

/-- An intersection has its place within every operand, unless it has no pixels. -/
theorem liesAt_intersectionAll {grids : List (Grid K)} {i : Grid K}
    (h : intersectionAll grids = .ok i) :
    ∀ g ∈ grids, ∃ columns rows : ℕ, (i.width = 0 ∨ columns + i.width ≤ g.width) ∧
      (i.height = 0 ∨ rows + i.height ≤ g.height) ∧ g.LiesAt i (-columns) (-rows) := by
  obtain - | ⟨first, rest⟩ := grids
  · cases h
  obtain ⟨b, hbox, -⟩ := exists_of_bind_eq_ok h
  obtain ⟨d, hcombined, -⟩ := exists_of_map_eq_ok hbox
  have hnear := isNearLattice_of_combinedBox hcombined
  obtain ⟨c, hc, hcommon⟩ := commonBox_eq_of_accepts (accepts_of_isNearLattice hnear)
  obtain rfl := Except.ok.inj ((intersectionAll_eq_window hcommon).symm.trans h)
  intro g hg
  obtain ⟨hleft, hbottom, hright, htop⟩ := hc.bounds (sides_mem_sidesIn first hg)
  simp only [Window.sides] at hleft hbottom hright htop
  obtain ⟨columns, hcolumns⟩ := Int.eq_ofNat_of_zero_le (sub_nonneg.2 hleft)
  obtain ⟨rows, hrows⟩ := Int.eq_ofNat_of_zero_le (sub_nonneg.2 hbottom)
  have hwidth : (first.windowIn g).width = g.width := rfl
  have hheight : (first.windowIn g).height = g.height := rfl
  refine ⟨columns, rows, ?_, ?_, ?_⟩
  · simp only [width_window, Window.ofSides, Box.clamp]
    omega
  · simp only [height_window, Window.ofSides, Box.clamp]
    omega
  · rw [← hcolumns, ← hrows, neg_sub, neg_sub]
    exact (hnear g hg).liesAt_window (.ofSides c.clamp)

end

/-- An accepted grid lies at its pixel box, every operand of a union within the union, and an
intersection that has pixels within every operand, up to the drift.  The drift is less than half a
pixel for all grids of at most 49950 columns and rows. -/
theorem accepted_within_drift :
    (∀ (g reference : Grid K) (b : Box K), g.pixelBox reference = .ok b →
      ∃ columns rows : ℤ, b = ⟨columns, rows, columns + g.width, rows + g.height⟩ ∧
        g.LiesAt reference columns rows) ∧
    (∀ (grids : List (Grid K)) (u : Grid K), unionAll grids = .ok u →
      ∀ g ∈ grids, ∃ columns rows : ℕ, columns + g.width ≤ u.width ∧
        rows + g.height ≤ u.height ∧ g.LiesAt u columns rows) ∧
    (∀ (grids : List (Grid K)) (i : Grid K), intersectionAll grids = .ok i →
      ∀ g ∈ grids, ∃ columns rows : ℕ, (i.width = 0 ∨ columns + i.width ≤ g.width) ∧
        (i.height = 0 ∨ rows + i.height ≤ g.height) ∧ g.LiesAt i (-columns) (-rows)) ∧
    ∀ n : K, n ≤ 49950 → drift n < 1 / 2 := by
  refine ⟨fun g reference b h => ?_, fun _ _ => liesAt_unionAll,
    fun _ _ => liesAt_intersectionAll, fun _ => drift_lt_half⟩
  obtain ⟨hnear, rfl⟩ := pixelBox_eq_ok_iff.1 h
  exact ⟨_, _, sides_windowIn_cast reference g, hnear.liesAt⟩

def stretched (width height : ℕ) (factor : ℚ) : Grid ℚ where
  width := width
  height := height
  affine := ⟨10 * factor, 0, 0, 0, -10, 0⟩
  crs := (northUp width height 0 0).crs
  axisAligned := by simp [Affine.isAxisAligned_iff]

theorem relative_stretched (width height width' height' : ℕ) (factor : ℚ) :
    (northUp width height 0 0).relative (stretched width' height' factor) =
      ⟨factor, 0, 0, 0, 1, 0⟩ := by
  simp [relative, northUp, stretched]

theorem windowIn_stretched (width height width' height' : ℕ) (factor : ℚ) :
    (northUp width height 0 0).windowIn (stretched width' height' factor) =
      ⟨0, 0, height', width'⟩ := by
  have hzero : Exact.nearest (0 : ℚ) = 0 := by simpa using Exact.nearest_intCast (K := ℚ) 0
  simp [windowIn, northUp, stretched, hzero]

theorem isNearLattice_stretched (width height width' height' : ℕ) {factor : ℚ}
    (h : |factor - 1| ≤ scaleTolerance) :
    (northUp width height 0 0).IsNearLattice (stretched width' height' factor) := by
  refine ⟨Crs.beq_refl _, inverse?_isSome_northUp _ _ _ _, ?_, ?_, ?_, ?_⟩ <;>
    simp only [relative_stretched, windowIn_stretched]
  · exact h
  · norm_num [scaleTolerance]
  · norm_num [wholePixelTolerance_eq]
  · norm_num [wholePixelTolerance_eq]

/-- The theorem at two grids whose pixel widths differ by a millionth. -/
theorem accepted_within_drift_stretched :
    let g := stretched 6 2 (1 + 1 / 10 ^ 6)
    let reference := northUp 4 4 0 0
    ∃ (b : Box ℚ) (u i : Grid ℚ), g.pixelBox reference = .ok b ∧
      unionAll [reference, g] = .ok u ∧ intersectionAll [reference, g] = .ok i ∧
      (∃ columns rows : ℤ, b = ⟨columns, rows, columns + g.width, rows + g.height⟩ ∧
        g.LiesAt reference columns rows) ∧
      (∀ h ∈ [reference, g], ∃ columns rows : ℕ, columns + h.width ≤ u.width ∧
        rows + h.height ≤ u.height ∧ h.LiesAt u columns rows) ∧
      (∀ h ∈ [reference, g], ∃ columns rows : ℕ, (i.width = 0 ∨ columns + i.width ≤ h.width) ∧
        (i.height = 0 ∨ rows + i.height ≤ h.height) ∧ h.LiesAt i (-columns) (-rows)) ∧
      drift (6 : ℚ) < 1 / 2 := by
  intro g reference
  have hself : reference.Accepts reference :=
    pixelBox_eq (inverse?_isSome_northUp 4 4 0 0) reference.onLattice_self
  have hnear : reference.IsNearLattice g :=
    isNearLattice_stretched 4 4 6 2 (by norm_num [scaleTolerance])
  have hbox : g.pixelBox reference = .ok _ := pixelBox_eq_ok_iff.2 ⟨hnear, rfl⟩
  have hall : ∀ h ∈ [reference, g], reference.Accepts h := by
    simp only [List.forall_mem_cons, List.not_mem_nil, false_imp_iff, implies_true, and_true]
    exact ⟨hself, hbox⟩
  obtain ⟨_, -, hunion⟩ := unionAll_eq_window_of_accepts hall
  obtain ⟨_, -, hcommon⟩ := commonBox_eq_of_accepts hall
  have hintersection := intersectionAll_eq_window hcommon
  obtain ⟨hlies, hlies', hlies'', hhalf⟩ := accepted_within_drift (K := ℚ)
  exact ⟨_, _, _, hbox, hunion, hintersection, hlies _ _ _ hbox, hlies' _ _ hunion,
    hlies'' _ _ hintersection, hhalf 6 (by norm_num)⟩

/-- At the end of 49951 columns that are wider by nearly the tolerance. -/
theorem not_within_half_pixel :
    ¬∀ (g reference : Grid ℚ) (b : Box ℚ), g.pixelBox reference = .ok b →
      ∃ v, reference.affine.inverse? = some v ∧ ∀ i j : ℕ, i ≤ g.width → j ≤ g.height →
        |((v * g.affine).apply ⟨i, j⟩).x - (b.left + i)| ≤ 1 / 2 ∧
          |((v * g.affine).apply ⟨i, j⟩).y - (b.bottom + j)| ≤ 1 / 2 := by
  intro hwithin
  have hnear : (northUp 1 1 0 0).IsNearLattice (stretched 49951 1 (1 + 100099 / 10 ^ 10)) :=
    isNearLattice_stretched 1 1 49951 1 (by norm_num [scaleTolerance])
  obtain ⟨v, hv, hhalf⟩ := hwithin _ _ _ (pixelBox_eq_ok_iff.2 ⟨hnear, rfl⟩)
  obtain ⟨v', hv', hrelative⟩ := exists_inverse_mul_eq_relative hnear.inverse
  obtain rfl := Option.some.inj (hv.symm.trans hv')
  have hlast := (hhalf 49951 0 le_rfl (Nat.zero_le _)).1
  rw [hrelative, relative_stretched, windowIn_stretched] at hlast
  norm_num [Affine.apply, Box.cast, Window.sides] at hlast

end Graticule.Grid
