import Graticule.Proofs.Crs.Equality
import Graticule.Proofs.Grid.Drift

/-!
# Exchanging a grid and its reference grid

A grid is accepted when its pixel sizes and the distance of its origin agree with the lattice of the
reference grid up to tolerances, which are shares of a pixel of the reference grid: `placedAt_iff`.
Exchanging the two grids compares the same sizes and distances, with shares of a pixel of the other
grid.  `exchange_iff` says when the exchanged grids are accepted at the opposite offset, which is
always so for pixels of one size, and what this means for unions and intersections.
-/

namespace Graticule.Grid

open scoped Exact

variable {K : Type} [Field K] [LinearOrder K] [IsStrictOrderedRing K] [FloorRing K]

/-- Along an axis a pixel size agrees with that of a reference grid, and a distance of the origins
with `n` pixels of the reference grid. -/
structure AgreesAlong (size other distance : K) (n : ℤ) : Prop where
  scale : |other - size| ≤ scaleTolerance * |size|
  offset : |distance - n * size| < wholePixelTolerance * |size|

/-- The grid is accepted so many columns and rows from the reference grid. -/
def PlacedAt (g reference : Grid K) (columns rows : ℤ) : Prop :=
  g.pixelBox reference = .ok ⟨columns, rows, columns + g.width, rows + g.height⟩

theorem wholePixelTolerance_lt_half : (wholePixelTolerance : K) < 1 / 2 := by
  rw [wholePixelTolerance_eq]
  norm_num

/-! ## Agreement along an axis -/

theorem agreesAlong_iff {size : K} (hsize : size ≠ 0) (other distance : K) (n : ℤ) :
    AgreesAlong size other distance n ↔
      |other / size - 1| ≤ scaleTolerance ∧ |distance / size - n| < wholePixelTolerance := by
  have hpos : 0 < |size| := abs_pos.2 hsize
  have hscale : |other / size - 1| = |other - size| / |size| := by
    rw [← abs_div, sub_div, div_self hsize]
  have hoffset : |distance / size - n| = |distance - n * size| / |size| := by
    rw [← abs_div, sub_div, mul_div_cancel_right₀ _ hsize]
  rw [hscale, hoffset, div_le_iff₀ hpos, div_lt_iff₀ hpos]
  exact ⟨fun ⟨hs, hd⟩ => ⟨hs, hd⟩, fun ⟨hs, hd⟩ => ⟨hs, hd⟩⟩

omit [IsStrictOrderedRing K] in
theorem agreesAlong_neg {size other distance : K} {n : ℤ} :
    AgreesAlong size other (-distance) (-n) ↔ AgreesAlong size other distance n := by
  have hdistance : |-distance - ((-n : ℤ) : K) * size| = |distance - n * size| := by
    rw [← abs_neg]
    congr 1
    push_cast
    ring
  constructor
  · rintro ⟨hsize, hlt⟩
    exact ⟨hsize, by rwa [hdistance] at hlt⟩
  · rintro ⟨hsize, hlt⟩
    exact ⟨hsize, by rwa [hdistance]⟩

/-! ## Where a grid is accepted -/

theorem placedAt_iff {g reference : Grid K} {columns rows : ℤ} :
    g.PlacedAt reference columns rows ↔
      (reference.crs == g.crs) = true ∧ reference.affine.inverse?.isSome = true ∧
        AgreesAlong reference.affine.a g.affine.a (g.affine.c - reference.affine.c) columns ∧
        AgreesAlong reference.affine.e g.affine.e (g.affine.f - reference.affine.f) rows := by
  have hcast : (⟨columns, rows, columns + g.width, rows + g.height⟩ : Box K) =
      (reference.windowIn g).sides.cast ↔
        columns = (reference.windowIn g).column ∧ rows = (reference.windowIn g).row := by
    simp only [Box.cast, Window.sides, Box.mk.injEq, Int.cast_inj, Int.cast_add, Int.cast_natCast]
    refine ⟨fun h => ⟨h.1, h.2.1⟩, ?_⟩
    rintro ⟨rfl, rfl⟩
    exact ⟨rfl, rfl, rfl, rfl⟩
  unfold PlacedAt
  rw [pixelBox_eq_ok_iff, hcast]
  constructor
  · rintro ⟨⟨hcrs, hinverse, hx, hy, hcolumn, hrow⟩, rfl, rfl⟩
    obtain ⟨ha, he⟩ := scales_ne_zero hinverse
    exact ⟨hcrs, hinverse, (agreesAlong_iff ha _ _ _).2 ⟨hx, hcolumn⟩,
      (agreesAlong_iff he _ _ _).2 ⟨hy, hrow⟩⟩
  · rintro ⟨hcrs, hinverse, hx, hy⟩
    obtain ⟨ha, he⟩ := scales_ne_zero hinverse
    obtain ⟨hscaleX, hcolumn⟩ := (agreesAlong_iff ha _ _ _).1 hx
    obtain ⟨hscaleY, hrow⟩ := (agreesAlong_iff he _ _ _).1 hy
    have hcolumns : (reference.windowIn g).column = columns :=
      Exact.nearest_eq (hcolumn.trans wholePixelTolerance_lt_half)
    have hrows : (reference.windowIn g).row = rows :=
      Exact.nearest_eq (hrow.trans wholePixelTolerance_lt_half)
    exact ⟨⟨hcrs, hinverse, hscaleX, hscaleY, hcolumns ▸ hcolumn, hrows ▸ hrow⟩, hcolumns.symm,
      hrows.symm⟩

theorem isNearLattice_iff_exists_placedAt {g reference : Grid K} :
    reference.IsNearLattice g ↔ ∃ columns rows : ℤ, g.PlacedAt reference columns rows := by
  constructor
  · intro h
    have hsides := sides_windowIn_cast reference g
    exact ⟨(reference.windowIn g).column, (reference.windowIn g).row,
      pixelBox_eq_ok_iff.2 ⟨h, hsides.symm⟩⟩
  · rintro ⟨columns, rows, h⟩
    exact (pixelBox_eq_ok_iff.1 h).1

theorem agreesAlong_self {size : K} (hsize : size ≠ 0) (n : ℤ) :
    AgreesAlong size size (n * size) n := by
  have htolerance : (0 : K) < wholePixelTolerance := by
    rw [wholePixelTolerance_eq]
    positivity
  have hscale : (0 : K) ≤ scaleTolerance := by
    unfold scaleTolerance
    positivity
  have hpos : 0 < |size| := abs_pos.2 hsize
  constructor
  · rw [sub_self, abs_zero]
    positivity
  · rw [sub_self, abs_zero]
    positivity

theorem placedAt_self {g : Grid K} (hg : g.affine.inverse?.isSome = true) :
    g.PlacedAt g 0 0 := by
  obtain ⟨ha, he⟩ := scales_ne_zero hg
  have hx := agreesAlong_self ha 0
  have hy := agreesAlong_self he 0
  rw [Int.cast_zero, zero_mul] at hx hy
  refine placedAt_iff.2 ⟨Crs.beq_refl _, hg, ?_⟩
  rw [sub_self, sub_self]
  exact ⟨hx, hy⟩

theorem PlacedAt.sides_windowIn {g reference : Grid K} {columns rows : ℤ}
    (h : g.PlacedAt reference columns rows) :
    (reference.windowIn g).sides = ⟨columns, rows, columns + g.width, rows + g.height⟩ := by
  have hbox := (pixelBox_eq_ok_iff.1 h).2
  simp only [Box.cast, Window.sides, Box.mk.injEq, Int.cast_inj] at hbox ⊢
  obtain ⟨rfl, rfl, -, -⟩ := hbox
  exact ⟨rfl, rfl, rfl, rfl⟩

/-! ## Exchanging -/

section
variable {g h : Grid K}

/-- The exchanged grids are accepted at the opposite offset when the sizes and the distance agree
in pixels of the other grid too. -/
theorem placedAt_neg_iff (hg : g.affine.inverse?.isSome = true) (hcrs : (g.crs == h.crs) = true)
    (columns rows : ℤ) :
    h.PlacedAt g (-columns) (-rows) ↔
      AgreesAlong g.affine.a h.affine.a (g.affine.c - h.affine.c) columns ∧
        AgreesAlong g.affine.e h.affine.e (g.affine.f - h.affine.f) rows := by
  rw [placedAt_iff, ← neg_sub g.affine.c, ← neg_sub g.affine.f, agreesAlong_neg, agreesAlong_neg]
  exact ⟨fun hplaced => hplaced.2.2, fun hagrees => ⟨hcrs, hg, hagrees⟩⟩

/-- For pixels of one size it does not matter which of the grids is the reference grid. -/
theorem placedAt_comm_of_size_eq (hg : g.affine.inverse?.isSome = true)
    (hh : h.affine.inverse?.isSome = true) (hcrs : (g.crs == h.crs) = true)
    (ha : g.affine.a = h.affine.a) (he : g.affine.e = h.affine.e) (columns rows : ℤ) :
    g.PlacedAt h columns rows ↔ h.PlacedAt g (-columns) (-rows) := by
  rw [placedAt_neg_iff hg hcrs, placedAt_iff, ha, he]
  exact ⟨fun hplaced => hplaced.2.2, fun hagrees => ⟨Crs.beq_symm hcrs, hh, hagrees⟩⟩

/-! ### Unions and intersections of two grids -/

theorem isNearLattice_pair (hg : g.affine.inverse?.isSome = true) {columns rows : ℤ}
    (hh : h.PlacedAt g columns rows) : ∀ f ∈ [g, h], g.IsNearLattice f := by
  simp only [List.forall_mem_cons, List.not_mem_nil, false_imp_iff, implies_true, and_true]
  exact ⟨isNearLattice_iff_exists_placedAt.2 ⟨0, 0, placedAt_self hg⟩,
    isNearLattice_iff_exists_placedAt.2 ⟨columns, rows, hh⟩⟩

theorem sidesIn_pair (hg : g.affine.inverse?.isSome = true) {columns rows : ℤ}
    (hh : h.PlacedAt g columns rows) :
    g.sidesIn [g, h] =
      [⟨0, 0, g.width, g.height⟩,
        ⟨columns, rows, columns + h.width, rows + h.height⟩] := by
  have hself := (placedAt_self hg).sides_windowIn
  rw [zero_add, zero_add] at hself
  rw [sidesIn, List.map_cons, List.map_singleton, hself, hh.sides_windowIn]

theorem union_eq_window (hg : g.affine.inverse?.isSome = true) {columns rows : ℤ}
    (hh : h.PlacedAt g columns rows) :
    g.union h = .ok (g.window (.ofSides
      ⟨min 0 columns, min 0 rows, max g.width (columns + h.width),
        max g.height (rows + h.height)⟩)) := by
  obtain ⟨b, hb, hunion⟩ := unionAll_eq_window_of_accepts
    (accepts_of_isNearLattice (isNearLattice_pair hg hh))
  rw [sidesIn_pair hg hh] at hb
  obtain rfl := hb.eq_of_mem_iff ((Box.isHull_singleton _).append (Box.isHull_singleton _))
    fun _ => Iff.rfl
  exact hunion

theorem intersection_eq_window (hg : g.affine.inverse?.isSome = true) {columns rows : ℤ}
    (hh : h.PlacedAt g columns rows) :
    g.intersection h = .ok (g.window (.ofSides (Box.clamp
      ⟨max 0 columns, max 0 rows, min g.width (columns + h.width),
        min g.height (rows + h.height)⟩))) := by
  obtain ⟨b, hb, hcommon⟩ := commonBox_eq_of_accepts
    (accepts_of_isNearLattice (isNearLattice_pair hg hh))
  rw [sidesIn_pair hg hh] at hb
  obtain rfl := hb.eq_of_mem_iff ((Box.isOverlap_singleton _).append (Box.isOverlap_singleton _))
    fun _ => Iff.rfl
  exact intersectionAll_eq_window hcommon

theorem exists_placedAt_of_combinedBox {combine : Box K → Box K → Box K} {b : Box K}
    (hbox : combinedBox combine g [h] = .ok b) : ∃ columns rows : ℤ, h.PlacedAt g columns rows :=
  isNearLattice_iff_exists_placedAt.1
    (isNearLattice_of_combinedBox hbox h (List.mem_cons_of_mem g List.mem_cons_self))

theorem exists_union_iff (hg : g.affine.inverse?.isSome = true) :
    (∃ u, g.union h = .ok u) ↔ ∃ columns rows : ℤ, h.PlacedAt g columns rows := by
  constructor
  · rintro ⟨u, hu⟩
    obtain ⟨b, hbox, -⟩ := exists_of_bind_eq_ok hu
    exact exists_placedAt_of_combinedBox hbox
  · rintro ⟨columns, rows, hh⟩
    exact ⟨_, union_eq_window hg hh⟩

theorem exists_intersection_iff (hg : g.affine.inverse?.isSome = true) :
    (∃ i, g.intersection h = .ok i) ↔ ∃ columns rows : ℤ, h.PlacedAt g columns rows := by
  constructor
  · rintro ⟨i, hi⟩
    obtain ⟨b, hbox, -⟩ := exists_of_bind_eq_ok hi
    obtain ⟨c, hcombined, -⟩ := exists_of_map_eq_ok hbox
    exact exists_placedAt_of_combinedBox hcombined
  · rintro ⟨columns, rows, hh⟩
    exact ⟨_, intersection_eq_window hg hh⟩

/-- Two results of one shape, in whichever order the grids are combined. -/
def SameShape (combine : Grid K → Grid K → Except (Error K) (Grid K)) (g h : Grid K) : Prop :=
  ∃ u v, combine g h = .ok u ∧ combine h g = .ok v ∧ u.height = v.height ∧ u.width = v.width

theorem sameShape_union (hg : g.affine.inverse?.isSome = true)
    (hh : h.affine.inverse?.isSome = true) {columns rows : ℤ} (hplaced : g.PlacedAt h columns rows)
    (hexchanged : h.PlacedAt g (-columns) (-rows)) : SameShape union g h := by
  refine ⟨_, _, union_eq_window hg hexchanged, union_eq_window hh hplaced, ?_, ?_⟩ <;>
    simp only [height_window, width_window, Window.ofSides] <;> omega

theorem sameShape_intersection (hg : g.affine.inverse?.isSome = true)
    (hh : h.affine.inverse?.isSome = true) {columns rows : ℤ} (hplaced : g.PlacedAt h columns rows)
    (hexchanged : h.PlacedAt g (-columns) (-rows)) : SameShape intersection g h := by
  refine ⟨_, _, intersection_eq_window hg hexchanged, intersection_eq_window hh hplaced, ?_, ?_⟩ <;>
    simp only [height_window, width_window, Window.ofSides, Box.clamp] <;> omega

end

/-- Of two grids of which the first is accepted, the second is accepted at the opposite offset when
sizes and distance agree in pixels of the first grid too, and then unions and intersections have one
shape in both orders.  For pixels of one size this is always so.  A union or an intersection succeeds
when its second grid is accepted by its first. -/
theorem exchange_iff (g h : Grid K) (hg : g.affine.inverse?.isSome = true)
    (hh : h.affine.inverse?.isSome = true) (hcrs : (g.crs == h.crs) = true) :
    (∀ columns rows : ℤ, g.PlacedAt h columns rows →
      (h.PlacedAt g (-columns) (-rows) ↔
        AgreesAlong g.affine.a h.affine.a (g.affine.c - h.affine.c) columns ∧
          AgreesAlong g.affine.e h.affine.e (g.affine.f - h.affine.f) rows) ∧
      (h.PlacedAt g (-columns) (-rows) → SameShape union g h ∧ SameShape intersection g h)) ∧
    (g.affine.a = h.affine.a → g.affine.e = h.affine.e →
      (∀ columns rows : ℤ, g.PlacedAt h columns rows ↔ h.PlacedAt g (-columns) (-rows)) ∧
        ((∃ u, g.union h = .ok u) ↔ ∃ u, h.union g = .ok u) ∧
        ((∃ i, g.intersection h = .ok i) ↔ ∃ i, h.intersection g = .ok i)) ∧
    ((∃ u, g.union h = .ok u) ↔ ∃ columns rows : ℤ, h.PlacedAt g columns rows) ∧
    ((∃ i, g.intersection h = .ok i) ↔ ∃ columns rows : ℤ, h.PlacedAt g columns rows) := by
  refine ⟨fun columns rows hplaced => ⟨placedAt_neg_iff hg hcrs columns rows, fun hexchanged =>
    ⟨sameShape_union hg hh hplaced hexchanged, sameShape_intersection hg hh hplaced hexchanged⟩⟩,
    fun ha he => ?_, exists_union_iff hg, exists_intersection_iff hg⟩
  have hcomm := placedAt_comm_of_size_eq hg hh hcrs ha he
  have hexists : (∃ columns rows : ℤ, h.PlacedAt g columns rows) ↔
      ∃ columns rows : ℤ, g.PlacedAt h columns rows := by
    constructor
    · rintro ⟨columns, rows, hplaced⟩
      exact ⟨-columns, -rows, (hcomm _ _).2 (by rwa [neg_neg, neg_neg])⟩
    · rintro ⟨columns, rows, hplaced⟩
      exact ⟨-columns, -rows, (hcomm _ _).1 hplaced⟩
  refine ⟨hcomm, ?_, ?_⟩
  · rw [exists_union_iff hg, exists_union_iff hh, hexists]
  · rw [exists_intersection_iff hg, exists_intersection_iff hh, hexists]

/-! ## Grids whose pixels differ in width -/

theorem inverse?_isSome_stretched (width height : ℕ) {factor : ℚ} (h : 1 ≤ factor) :
    (stretched width height factor).affine.inverse?.isSome = true := by
  have hfactor : |factor| = factor := abs_of_nonneg (by linarith)
  rw [Affine.inverse?_isSome_iff, Affine.negligible_eq, Affine.determinant_eq]
  norm_num [stretched, abs_mul, hfactor]
  linarith

/-- Pixels that are wider by a millionth: both grids are accepted, and both orders give one shape. -/
theorem exchange_iff_stretched :
    let g := stretched 6 2 (1 + 1 / 10 ^ 6)
    let h := northUp 4 4 0 0
    g.affine.inverse?.isSome = true ∧ h.affine.inverse?.isSome = true ∧
      (g.crs == h.crs) = true ∧ g.PlacedAt h 0 0 ∧ h.PlacedAt g (-0) (-0) ∧
      SameShape union g h ∧ SameShape intersection g h := by
  intro g h
  have hg : g.affine.inverse?.isSome = true := inverse?_isSome_stretched 6 2 (by norm_num)
  have hh : h.affine.inverse?.isSome = true := inverse?_isSome_northUp 4 4 0 0
  have hplaced : g.PlacedAt h 0 0 := by
    refine placedAt_iff.2 ⟨Crs.beq_refl _, hh, ?_, ?_⟩ <;> constructor <;>
      norm_num [g, h, stretched, northUp, scaleTolerance, wholePixelTolerance_eq]
  obtain ⟨hiff, hshape⟩ := (exchange_iff g h hg hh (Crs.beq_refl _)).1 0 0 hplaced
  have hexchanged : h.PlacedAt g (-0) (-0) := by
    refine hiff.2 ⟨?_, ?_⟩ <;> constructor <;>
      norm_num [g, h, stretched, northUp, scaleTolerance, wholePixelTolerance_eq]
  exact ⟨hg, hh, Crs.beq_refl _, hplaced, hexchanged, hshape hexchanged⟩

/-- A hundred thousand pixels that are wider by a hundred-thousandth of a pixel are as long as a
hundred thousand and one, so the exchanged grids are one column nearer to one another. -/
theorem not_exchange_far :
    ¬∀ g h : Grid ℚ, g.affine.inverse?.isSome = true → h.affine.inverse?.isSome = true →
      (g.crs == h.crs) = true → ∀ columns rows : ℤ, g.PlacedAt h columns rows →
        h.PlacedAt g (-columns) (-rows) := by
  intro hexchange
  let g := (stretched 1 1 (1 + 1 / 10 ^ 5)).window ⟨0, 100000, 1, 1⟩
  have hg : g.affine.inverse?.isSome = true := by
    rw [affine_window, inverse?_isSome_shifted]
    exact inverse?_isSome_stretched 1 1 (by norm_num)
  have hh := inverse?_isSome_northUp 1 1 0 0
  have hcrs : (g.crs == (northUp 1 1 0 0).crs) = true := Crs.beq_refl _
  have hplaced : g.PlacedAt (northUp 1 1 0 0) 100001 0 := by
    refine placedAt_iff.2 ⟨Crs.beq_refl _, hh, ?_, ?_⟩ <;> constructor <;>
      norm_num [g, shifted_eq, stretched, northUp, scaleTolerance, wholePixelTolerance_eq]
  have hexchanged := hexchange g _ hg hh hcrs _ _ hplaced
  obtain ⟨-, hfar⟩ := ((placedAt_neg_iff hg hcrs _ _).1 hexchanged).1
  norm_num [g, shifted_eq, stretched, northUp, wholePixelTolerance_eq, abs_div] at hfar

end Graticule.Grid
