import Graticule.Proofs.Planar.Monotone
import Mathlib.Analysis.Convex.Segment

/-!
# Winding numbers

A ring winds around a point as often as its edges, each counted with its sign, pass the point on the
right.  Along a segment that has no point in common with the ring the number does not change,
`Path.windingSum_eq_of_isApart`: on the way an edge adds to it what the heights of the edge's two
ends, swept on their left, add, `Edge.winding_sub`, and along a closed ring the ends cancel.
-/

namespace Graticule

open scoped Exact

/-! ## Points of a segment -/

section

variable {K : Type} [Field K] [LinearOrder K] [IsStrictOrderedRing K]

theorem exists_eq_add_mul {a b v : K} (h : v ∈ Set.uIcc a b) :
    ∃ t, (0 ≤ t ∧ t ≤ 1) ∧ v = a + t * (b - a) := by
  rw [← segment_eq_uIcc, segment_eq_image'] at h
  obtain ⟨t, ht, rfl⟩ := h
  exact ⟨t, ht, rfl⟩

theorem add_mul_mem_uIcc {a b t : K} (ht : 0 ≤ t ∧ t ≤ 1) : a + t * (b - a) ∈ Set.uIcc a b := by
  rw [← segment_eq_uIcc, segment_eq_image']
  exact ⟨t, ht, rfl⟩

theorem sides_of_notMem_uIcc {a b x : K} (h : x ∉ Set.uIcc a b) :
    (a < x ↔ b < x) ∧ (x < a ↔ x < b) := by
  rw [Set.mem_uIcc] at h
  grind

end

variable {K : Type} [Field K] [LinearOrder K] [FloorRing K]

namespace Edge

/-- Twice the area of the triangle of the edge and a point, positive when the point is on the left
of the edge. -/
def side (e : Edge K) (p : Position K) : K := (e.stop.minus e.start).cross (p.minus e.start)

theorem side_eq (e : Edge K) (p : Position K) :
    e.side p = (e.stop.x - e.start.x) * (p.y - e.start.y) -
      (e.stop.y - e.start.y) * (p.x - e.start.x) := rfl

/-- The points of an edge are those that divide it. -/
theorem passes_iff_exists [IsStrictOrderedRing K] (e : Edge K) (p : Position K) :
    e.passes p = true ↔ ∃ t, (0 ≤ t ∧ t ≤ 1) ∧ p.x = e.start.x + t * (e.stop.x - e.start.x) ∧
      p.y = e.start.y + t * (e.stop.y - e.start.y) := by
  rw [passes_iff]
  constructor
  · rintro ⟨hcross, hx, hy⟩
    by_cases hdx : e.stop.x - e.start.x = 0
    · obtain ⟨t, ht, hpy⟩ := exists_eq_add_mul hy
      rw [← sub_eq_zero.1 hdx, min_self, max_self] at hx
      refine ⟨t, ht, ?_, hpy⟩
      rw [hdx, mul_zero, add_zero, ← sub_eq_zero.1 hdx]
      exact le_antisymm hx.2 hx.1
    · obtain ⟨t, ht, hpx⟩ := exists_eq_add_mul hx
      refine ⟨t, ht, hpx, ?_⟩
      have hdy : p.y - e.start.y = t * (e.stop.y - e.start.y) := by
        refine mul_left_cancel₀ hdx ?_
        rw [hcross, hpx]
        ring
      linear_combination hdy
  · rintro ⟨t, ht, hpx, hpy⟩
    rw [hpx, hpy]
    exact ⟨by ring, add_mul_mem_uIcc ht, add_mul_mem_uIcc ht⟩

theorem passes_abscissa [IsStrictOrderedRing K] {e : Edge K} (he : e.start.y ≠ e.stop.y) {y : K}
    (hy : y ∈ Set.uIcc e.start.y e.stop.y) : e.passes ⟨e.abscissa y, y⟩ = true := by
  have hne : e.stop.y - e.start.y ≠ 0 := sub_ne_zero.2 he.symm
  obtain ⟨t, ht, rfl⟩ := exists_eq_add_mul hy
  refine (passes_iff_exists _ _).2 ⟨t, ht, ?_, rfl⟩
  unfold abscissa
  rw [add_sub_cancel_left, mul_div_cancel_right₀ t hne]

theorem abscissa_start [IsStrictOrderedRing K] {e : Edge K} (he : e.start.y ≠ e.stop.y) :
    e.abscissa e.start.y = e.start.x := abscissa_of_passes he e.passes_start

theorem abscissa_stop [IsStrictOrderedRing K] {e : Edge K} (he : e.start.y ≠ e.stop.y) :
    e.abscissa e.stop.y = e.stop.x := abscissa_of_passes he e.passes_stop

theorem passes_horizontal_iff {e : Edge K} (he : e.start.y = e.stop.y) (x : K) :
    e.passes ⟨x, e.start.y⟩ = true ↔ x ∈ Set.uIcc e.start.x e.stop.x := by
  rw [passes_iff, he, min_self, max_self, sub_self, mul_zero, zero_mul]
  exact (and_iff_right rfl).trans (and_iff_left ⟨le_rfl, le_rfl⟩)

/-! ## Edges without a common point -/

def IsApart (e f : Edge K) : Prop := ∀ p, e.passes p = true → f.passes p = false

theorem IsApart.symm {e f : Edge K} (h : e.IsApart f) : f.IsApart e := by
  intro p hp
  by_contra hpasses
  rw [h p (Bool.not_eq_false _ ▸ hpasses)] at hp
  cases hp

theorem abscissa_add_mul (e : Edge K) (y z t : K) :
    e.abscissa (y + t * (z - y)) = e.abscissa y + t * (e.abscissa z - e.abscissa y) := by
  unfold abscissa
  ring

section

variable {s e : Edge K} (h : s.IsApart e)

include h

variable [IsStrictOrderedRing K]

/-- Where both edges have points, one stays on the left of the other. -/
theorem IsApart.abscissa_lt (hs : s.start.y ≠ s.stop.y) (he : e.start.y ≠ e.stop.y) {y z : K}
    (hsy : y ∈ Set.uIcc s.start.y s.stop.y) (hey : y ∈ Set.uIcc e.start.y e.stop.y)
    (hsz : z ∈ Set.uIcc s.start.y s.stop.y) (hez : z ∈ Set.uIcc e.start.y e.stop.y)
    (hlt : s.abscissa y < e.abscissa y) : s.abscissa z < e.abscissa z := by
  by_contra hge
  -- the distance changes its sign on the way from `y` to `z`
  obtain ⟨t, ht, hzero⟩ := exists_eq_add_mul (a := e.abscissa y - s.abscissa y)
    (b := e.abscissa z - s.abscissa z) (v := 0)
    ⟨(min_le_right _ _).trans (by linarith), (by linarith : _ ≤ _).trans (le_max_left _ _)⟩
  have hbetween : y + t * (z - y) ∈ Set.uIcc y z := add_mul_mem_uIcc ht
  have hmeet : s.abscissa (y + t * (z - y)) = e.abscissa (y + t * (z - y)) := by
    rw [abscissa_add_mul, abscissa_add_mul]
    linear_combination hzero
  have hspasses := passes_abscissa hs (Set.uIcc_subset_uIcc hsy hsz hbetween)
  have hepasses := passes_abscissa he (Set.uIcc_subset_uIcc hey hez hbetween)
  rw [← hmeet, h _ hspasses] at hepasses
  cases hepasses

theorem IsApart.sides_of_horizontal (hs : s.start.y = s.stop.y) (he : e.start.y ≠ e.stop.y)
    (hey : s.start.y ∈ Set.uIcc e.start.y e.stop.y) :
    (s.start.x < e.abscissa s.start.y ↔ s.stop.x < e.abscissa s.start.y) ∧
      (e.abscissa s.start.y < s.start.x ↔ e.abscissa s.start.y < s.stop.x) := by
  have hpasses := h.symm _ (passes_abscissa he hey)
  rw [← Bool.not_eq_true, passes_horizontal_iff hs] at hpasses
  exact sides_of_notMem_uIcc hpasses

end

/-! ## How often an edge winds around a point -/

def reached (height y : K) : ℤ := if height ≤ y then 1 else 0

/-- How often the edge winds around a point: once upward or downward if it passes the point on the
right, the lower end of the edge included and the upper one not. -/
def winding (e : Edge K) (p : Position K) : ℤ :=
  if p.x < e.abscissa p.y then reached e.start.y p.y - reached e.stop.y p.y else 0

/-- How often a point that moves along the edge sweeps the height of `u` on the left of `u`. -/
def sweeps (s : Edge K) (u : Position K) : ℤ :=
  if s.abscissa u.y < u.x then reached u.y s.stop.y - reached u.y s.start.y else 0

theorem winding_of_horizontal {e : Edge K} (he : e.start.y = e.stop.y) (p : Position K) :
    e.winding p = 0 := by
  unfold winding
  rw [he, sub_self, ite_self]

theorem winding_of_vertical (x y z : K) (p : Position K) :
    winding ⟨⟨x, y⟩, ⟨x, z⟩⟩ p = if p.x < x then reached y p.y - reached z p.y else 0 := by
  unfold winding abscissa
  dsimp only
  rw [sub_self, mul_zero, add_zero]

theorem sweeps_of_horizontal {s : Edge K} (hs : s.start.y = s.stop.y) (u : Position K) :
    s.sweeps u = 0 := by
  unfold sweeps
  rw [hs, sub_self, ite_self]

variable [IsStrictOrderedRing K]

/-- On which side the point is matters only between the heights of the ends. -/
theorem winding_eq_ite {e : Edge K} {p : Position K} {P : Prop} [Decidable P]
    (h : p.y ∈ Set.uIcc e.start.y e.stop.y → (p.x < e.abscissa p.y ↔ P)) :
    e.winding p = if P then reached e.start.y p.y - reached e.stop.y p.y else 0 := by
  unfold winding
  by_cases hmem : p.y ∈ Set.uIcc e.start.y e.stop.y
  · exact if_congr (h hmem) rfl rfl
  · have hreached : reached e.start.y p.y = reached e.stop.y p.y :=
      if_congr (not_lt.symm.trans ((sides_of_notMem_uIcc hmem).2.not.trans not_lt)) rfl rfl
    rw [hreached, sub_self, ite_self, ite_self]

theorem sweeps_eq_ite {s : Edge K} {u : Position K} {P : Prop} [Decidable P]
    (h : u.y ∈ Set.uIcc s.start.y s.stop.y → (s.abscissa u.y < u.x ↔ P)) :
    s.sweeps u = if P then reached u.y s.stop.y - reached u.y s.start.y else 0 := by
  unfold sweeps
  by_cases hmem : u.y ∈ Set.uIcc s.start.y s.stop.y
  · exact if_congr (h hmem) rfl rfl
  · have hreached : reached u.y s.stop.y = reached u.y s.start.y :=
      if_congr (not_lt.symm.trans ((sides_of_notMem_uIcc hmem).1.symm.not.trans not_lt)) rfl rfl
    rw [hreached, sub_self, ite_self, ite_self]

section

variable {s e : Edge K} (h : s.IsApart e)

include h

/-- On the heights that both edges have, the one is left of the other throughout or nowhere. -/
theorem winding_sub_of_sloped (hs : s.start.y ≠ s.stop.y) (he : e.start.y ≠ e.stop.y) :
    e.winding s.stop - e.winding s.start = s.sweeps e.start - s.sweeps e.stop := by
  classical
  let isLeft : Prop := ∃ y, y ∈ Set.uIcc s.start.y s.stop.y ∧ y ∈ Set.uIcc e.start.y e.stop.y ∧
    s.abscissa y < e.abscissa y
  have hiff {y : K} (hsy : y ∈ Set.uIcc s.start.y s.stop.y)
      (hey : y ∈ Set.uIcc e.start.y e.stop.y) : s.abscissa y < e.abscissa y ↔ isLeft :=
    ⟨fun hlt => ⟨y, hsy, hey, hlt⟩,
      fun ⟨_, hsz, hez, hlt⟩ => h.abscissa_lt hs he hsz hez hsy hey hlt⟩
  have hstop := winding_eq_ite (P := isLeft) (e := e) (p := s.stop) fun hmem => by
    rw [← abscissa_stop hs]
    exact hiff Set.right_mem_uIcc hmem
  have hstart := winding_eq_ite (P := isLeft) (e := e) (p := s.start) fun hmem => by
    rw [← abscissa_start hs]
    exact hiff Set.left_mem_uIcc hmem
  have hswept := sweeps_eq_ite (P := isLeft) (s := s) (u := e.start) fun hmem => by
    rw [← abscissa_start he]
    exact hiff hmem Set.left_mem_uIcc
  have hunswept := sweeps_eq_ite (P := isLeft) (s := s) (u := e.stop) fun hmem => by
    rw [← abscissa_stop he]
    exact hiff hmem Set.right_mem_uIcc
  rw [hstop, hstart, hswept, hunswept]
  split_ifs
  · ring
  · rfl

/-- Along a segment that keeps apart from the edge, the edge comes to wind around the point as the
segment sweeps the heights of its ends. -/
theorem winding_sub :
    e.winding s.stop - e.winding s.start = s.sweeps e.start - s.sweeps e.stop := by
  -- a horizontal segment sweeps nothing, and a horizontal edge winds around nothing
  by_cases hs : s.start.y = s.stop.y
  · rw [sweeps_of_horizontal hs, sweeps_of_horizontal hs, sub_self, sub_eq_zero]
    by_cases he : e.start.y = e.stop.y
    · rw [winding_of_horizontal he, winding_of_horizontal he]
    · rw [winding_eq_ite (P := s.start.x < e.abscissa s.start.y) (p := s.stop), ← hs]
      · rfl
      · intro hmem
        rw [← hs] at hmem ⊢
        exact (h.sides_of_horizontal hs he hmem).1.symm
  · by_cases he : e.start.y = e.stop.y
    · rw [winding_of_horizontal he, winding_of_horizontal he, sub_self, eq_comm, sub_eq_zero]
      rw [sweeps_eq_ite (P := s.abscissa e.start.y < e.start.x) (u := e.stop), ← he]
      · rfl
      · intro hmem
        rw [← he] at hmem ⊢
        exact (h.symm.sides_of_horizontal he hs hmem).2.symm
    · exact winding_sub_of_sloped h hs he

end

end Edge

namespace Path

def windingSum (path : Path K) (p : Position K) : ℤ := (path.edgeList.map (·.winding p)).sum

omit [Field K] [FloorRing K] in
theorem head?_eq_getLast? {path : Path K} (h : path.isClosed = true) :
    path.head? = path.getLast? := by
  have : LawfulBEq (Position K) := { eq_of_beq := Position.eq_of_beq, rfl := Position.beq_self _ }
  exact eq_of_beq h

omit [Field K] [LinearOrder K] [FloorRing K] in
/-- What the ends of the edges contribute cancels between the first vertex and the last. -/
theorem sum_edgeList_sub (f : Position K → ℤ) {path : Path K} {first last : Position K}
    (hfirst : path.head? = some first) (hlast : path.getLast? = some last) :
    (path.edgeList.map fun e => f e.start - f e.stop).sum = f first - f last := by
  induction path generalizing first with
  | nil => cases hfirst
  | cons a path ih =>
    cases hfirst
    cases path with
    | nil =>
      obtain rfl : a = last := Option.some.inj hlast
      exact (sub_self _).symm
    | cons b path =>
      rw [edgeList_cons_cons, List.map_cons, List.sum_cons, ih rfl hlast]
      exact sub_add_sub_cancel _ _ _

omit [Field K] [FloorRing K] in
theorem sum_edgeList_sub_of_isClosed (f : Position K → ℤ) {ring : Path K}
    (h : ring.isClosed = true) : (ring.edgeList.map fun e => f e.start - f e.stop).sum = 0 := by
  cases ring with
  | nil => rfl
  | cons a ring =>
    have hlast := head?_eq_getLast? h
    rw [sum_edgeList_sub f rfl hlast.symm, sub_self]

/-- A closed ring winds as often around both ends of a segment that has no point on it. -/
theorem windingSum_eq_of_isApart [IsStrictOrderedRing K] {ring : Path K}
    (hring : ring.isClosed = true) {s : Edge K} (h : ∀ e ∈ ring.edgeList, s.IsApart e) :
    ring.windingSum s.stop = ring.windingSum s.start := by
  calc ring.windingSum s.stop
      = (ring.edgeList.map fun e =>
          e.winding s.start + (s.sweeps e.start - s.sweeps e.stop)).sum :=
        congrArg List.sum (List.map_congr_left fun e he =>
          eq_add_of_sub_eq' (Edge.winding_sub (h e he)))
    _ = ring.windingSum s.start +
          (ring.edgeList.map fun e => s.sweeps e.start - s.sweeps e.stop).sum :=
        List.sum_map_add
    _ = ring.windingSum s.start := by
        rw [sum_edgeList_sub_of_isClosed s.sweeps hring, add_zero]

end Path

end Graticule
