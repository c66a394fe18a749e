import Graticule.Proofs.Grid.Lattice

/-!
# Grids in one frame

The first operand of a union or an intersection is its reference, so results with different first
operands are read in different pixel coordinates.  `Grid.Occupies` places grids in one frame, an
affine map of which they are shifts by whole pixels.  There the union of grids occupies the hull of
their boxes and the intersection their clamped overlap, whichever grid comes first.
-/

namespace Graticule.Grid

open scoped Exact

variable {K : Type} [Field K] [LinearOrder K] [FloorRing K]

/-- The grid occupies a box of whole pixels in the pixel coordinates of a frame. -/
structure Occupies (g : Grid K) (t : Affine K) (b : Box ℤ) : Prop where
  affine : g.affine = shifted t b.left b.bottom
  width : b.left + g.width = b.right
  height : b.bottom + g.height = b.top

variable {t : Affine K} {f g h : Grid K} {b c : Box ℤ}

theorem Occupies.clamp_eq (hg : g.Occupies t b) : b.clamp = b := by
  have hwidth := hg.width
  have hheight := hg.height
  rw [Box.clamp, max_eq_right (by omega), max_eq_right (by omega)]

theorem Occupies.beq (hg : g.Occupies t b) (hh : h.Occupies t b) (hcrs : (g.crs == h.crs) = true) :
    (g == h) = true := by
  have hwidth := hg.width.trans hh.width.symm
  have hheight := hg.height.trans hh.height.symm
  rw [beq_iff]
  exact ⟨by omega, by omega, hg.affine.trans hh.affine.symm, hcrs⟩

theorem Occupies.inverse?_isSome (hg : g.Occupies t b) (ht : t.inverse?.isSome = true) :
    g.affine.inverse?.isSome = true := by
  rw [hg.affine, inverse?_isSome_shifted, ht]

theorem occupies_self (g : Grid K) : g.Occupies g.affine ⟨0, 0, g.width, g.height⟩ :=
  ⟨(shifted_zero _).symm, zero_add _, zero_add _⟩

theorem OnLattice.occupies [IsStrictOrderedRing K] (hf : f.affine.inverse?.isSome = true)
    (hg : f.OnLattice g) :
    g.Occupies f.affine (f.windowIn g).sides :=
  ⟨affine_eq_shifted_windowIn hf hg, rfl, rfl⟩

theorem Occupies.affine_eq (hf : f.Occupies t b) (hg : g.Occupies t c) :
    g.affine = f.affine *
      .translation ((c.left - b.left : ℤ) : K) ((c.bottom - b.bottom : ℤ) : K) := by
  rw [hf.affine, ← shifted_eq_mul, shifted_shifted, add_sub_cancel, add_sub_cancel, hg.affine]

theorem Occupies.onLattice (hf : f.Occupies t b) (hg : g.Occupies t c)
    (hcrs : (f.crs == g.crs) = true) : f.OnLattice g :=
  ⟨hcrs, _, _, hf.affine_eq hg⟩

/-- The window in another grid of the frame is the box, counted from that grid. -/
theorem Occupies.sides_windowIn [IsStrictOrderedRing K] (hf : f.Occupies t b) (hg : g.Occupies t c)
    (ht : t.inverse?.isSome = true) :
    (f.windowIn g).sides = c.moved (-b.left) (-b.bottom) := by
  have hwidth := hg.width
  have hheight := hg.height
  rw [windowIn_eq (hf.inverse?_isSome ht) (hf.affine_eq hg)]
  simp only [Window.sides, Box.moved, Box.mk.injEq]
  omega

/-- A window of a grid of the frame occupies its sides, counted from the frame. -/
theorem Occupies.window (hf : f.Occupies t b) (hc : c.clamp = c) :
    (f.window (.ofSides c)).Occupies t (c.moved b.left b.bottom) := by
  have hright : max c.left c.right = c.right := congrArg Box.right hc
  have htop : max c.bottom c.top = c.top := congrArg Box.top hc
  constructor
  · rw [affine_window, hf.affine, shifted_shifted]
    congr 1 <;> exact add_comm _ _
  · simp only [width_window, Window.ofSides, Box.moved]
    omega
  · simp only [height_window, Window.ofSides, Box.moved]
    omega

/-! ## Unions and intersections in a frame -/

section
variable {first : Grid K} {rest : List (Grid K)} {boxes : List (Box ℤ)}

theorem sidesIn_eq_map_moved [IsStrictOrderedRing K] (ht : t.inverse?.isSome = true)
    (hf : f.Occupies t b) {grids : List (Grid K)} (hgrids : List.Forall₂ (Occupies · t) grids boxes) :
    f.sidesIn grids = boxes.map (·.moved (-b.left) (-b.bottom)) := by
  induction hgrids with
  | nil => rfl
  | cons hg _ ih =>
    rw [sidesIn, List.map_cons, hf.sides_windowIn hg ht, List.map_cons]
    exact congrArg _ ih

theorem onLattice_of_occupies (hfirst : first.Occupies t b)
    (hrest : List.Forall₂ (Occupies · t) rest boxes)
    (hcrs : ∀ g ∈ rest, (first.crs == g.crs) = true) : ∀ g ∈ rest, first.OnLattice g := by
  induction hrest with
  | nil => simp
  | cons hg _ ih =>
    rw [List.forall_mem_cons] at hcrs ⊢
    exact ⟨hfirst.onLattice hg hcrs.1, ih hcrs.2⟩

variable [IsStrictOrderedRing K]

/-- The union occupies the hull of the boxes. -/
theorem unionAll_occupies (ht : t.inverse?.isSome = true) (hfirst : first.Occupies t b)
    (hrest : List.Forall₂ (Occupies · t) rest boxes)
    (hcrs : ∀ g ∈ rest, (first.crs == g.crs) = true) :
    ∃ u c, unionAll (first :: rest) = .ok u ∧ u.crs = first.crs ∧ u.Occupies t c ∧
      Box.IsHull some (b :: boxes) c := by
  obtain ⟨c, hc, hunion⟩ := unionAll_eq_window (hfirst.inverse?_isSome ht)
    (onLattice_of_occupies hfirst hrest hcrs)
  have hclamp : c.clamp = c := by
    obtain ⟨hleft, hbottom, hright, htop⟩ := hc.bounds (sides_mem_sidesIn first List.mem_cons_self)
    simp only [Window.sides] at hleft hbottom hright htop
    rw [Box.clamp, max_eq_right (by omega), max_eq_right (by omega)]
  rw [sidesIn_eq_map_moved ht hfirst (.cons hfirst hrest)] at hc
  have hmoved := hc.moved b.left b.bottom
  simp only [List.map_map, Function.comp_def, Box.moved_neg_moved, List.map_id'] at hmoved
  exact ⟨_, _, hunion, rfl, hfirst.window hclamp, hmoved⟩

/-- The intersection occupies the clamped overlap of the boxes. -/
theorem intersectionAll_occupies (ht : t.inverse?.isSome = true) (hfirst : first.Occupies t b)
    (hrest : List.Forall₂ (Occupies · t) rest boxes)
    (hcrs : ∀ g ∈ rest, (first.crs == g.crs) = true) :
    ∃ i c, intersectionAll (first :: rest) = .ok i ∧ i.crs = first.crs ∧ i.Occupies t c.clamp ∧
      Box.IsOverlap some (b :: boxes) c := by
  obtain ⟨c, hc, hbox⟩ := commonBox_eq (hfirst.inverse?_isSome ht)
    (onLattice_of_occupies hfirst hrest hcrs)
  have hclamp : c.clamp.clamp = c.clamp := by
    simp only [Box.clamp, max_eq_right (le_max_left _ _)]
  have hoccupies := hfirst.window hclamp
  rw [← Box.clamp_moved] at hoccupies
  rw [sidesIn_eq_map_moved ht hfirst (.cons hfirst hrest)] at hc
  have hmoved := hc.moved b.left b.bottom
  simp only [List.map_map, Function.comp_def, Box.moved_neg_moved, List.map_id'] at hmoved
  exact ⟨_, _, intersectionAll_eq_window hbox, rfl, hoccupies, hmoved⟩

end

variable [IsStrictOrderedRing K]

theorem union_occupies (ht : t.inverse?.isSome = true) (hg : g.Occupies t b) (hh : h.Occupies t c)
    (hcrs : (g.crs == h.crs) = true) :
    ∃ u, g.union h = .ok u ∧ u.crs = g.crs ∧
      u.Occupies t
        ⟨min b.left c.left, min b.bottom c.bottom, max b.right c.right, max b.top c.top⟩ := by
  obtain ⟨u, d, hu, hucrs, hoccupies, hd⟩ := unionAll_occupies ht hg (.cons hh .nil)
    (List.forall_mem_singleton.2 hcrs)
  have hpair := (Box.isHull_singleton b).append (Box.isHull_singleton c)
  obtain rfl := hd.eq_of_mem_iff hpair fun _ => Iff.rfl
  exact ⟨u, hu, hucrs, hoccupies⟩

theorem intersection_occupies (ht : t.inverse?.isSome = true) (hg : g.Occupies t b)
    (hh : h.Occupies t c) (hcrs : (g.crs == h.crs) = true) :
    ∃ i, g.intersection h = .ok i ∧ i.crs = g.crs ∧
      i.Occupies t
        (Box.clamp ⟨max b.left c.left, max b.bottom c.bottom, min b.right c.right,
          min b.top c.top⟩) := by
  obtain ⟨i, d, hi, hicrs, hoccupies, hd⟩ := intersectionAll_occupies ht hg (.cons hh .nil)
    (List.forall_mem_singleton.2 hcrs)
  have hpair := (Box.isOverlap_singleton b).append (Box.isOverlap_singleton c)
  obtain rfl := hd.eq_of_mem_iff hpair fun _ => Iff.rfl
  exact ⟨i, hi, hicrs, hoccupies⟩

end Graticule.Grid
