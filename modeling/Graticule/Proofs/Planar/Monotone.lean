import Graticule.Proofs.Planar.EvenOdd

/-!
# Lines that only rise or only fall

A ray crosses a line that rises from vertex to vertex at most once: at the height of a point of the
line, below the end, it crosses exactly when that point is on the left, and at the height of the end
it does not cross at all, `IsAscending.crossings_of_passes`.  A line that falls is one that rises,
read backward.
-/

namespace Graticule

open scoped Exact

variable {K : Type} [Field K] [LinearOrder K] [FloorRing K]

theorem Scalar.isBetween_iff (v a b : K) :
    Scalar.isBetween v a b = true ↔ min a b ≤ v ∧ v ≤ max a b := by
  unfold Scalar.isBetween
  by_cases hab : a < b
  · rw [if_pos hab, min_eq_left hab.le, max_eq_right hab.le, Bool.and_eq_true, decide_eq_true_iff,
      decide_eq_true_iff]
  · rw [if_neg hab, min_eq_right (not_lt.1 hab), max_eq_left (not_lt.1 hab), Bool.and_eq_true,
      decide_eq_true_iff, decide_eq_true_iff]

namespace Edge

/-! ## Points of an edge -/

theorem passes_iff (e : Edge K) (p : Position K) :
    e.passes p = true ↔
      (e.stop.x - e.start.x) * (p.y - e.start.y) = (e.stop.y - e.start.y) * (p.x - e.start.x) ∧
        (min e.start.x e.stop.x ≤ p.x ∧ p.x ≤ max e.start.x e.stop.x) ∧
          min e.start.y e.stop.y ≤ p.y ∧ p.y ≤ max e.start.y e.stop.y := by
  unfold passes Position.isBetween
  rw [Bool.and_eq_true, Bool.and_eq_true, Scalar.isBetween_iff, Scalar.isBetween_iff]
  refine and_congr (decide_eq_true_iff.trans ?_) Iff.rfl
  change _ - _ = ((0 : ℕ) : K) ↔ _
  rw [Nat.cast_zero, sub_eq_zero]
  rfl

theorem passes_start (e : Edge K) : e.passes e.start = true := by
  rw [passes_iff]
  refine ⟨?_, ⟨min_le_left _ _, le_max_left _ _⟩, min_le_left _ _, le_max_left _ _⟩
  ring

theorem passes_stop (e : Edge K) : e.passes e.stop = true := by
  rw [passes_iff]
  refine ⟨?_, ⟨min_le_right _ _, le_max_right _ _⟩, min_le_right _ _, le_max_right _ _⟩
  ring

/-- A point of a rising edge is between the ends in height. -/
theorem le_of_passes {e : Edge K} (he : e.start.y < e.stop.y) {p : Position K}
    (hp : e.passes p = true) : e.start.y ≤ p.y ∧ p.y ≤ e.stop.y := by
  obtain ⟨-, -, hlower, hupper⟩ := (passes_iff e p).1 hp
  rw [min_eq_left he.le] at hlower
  rw [max_eq_right he.le] at hupper
  exact ⟨hlower, hupper⟩

theorem abscissa_of_passes [IsStrictOrderedRing K] {e : Edge K} (he : e.start.y ≠ e.stop.y)
    {p : Position K} (hp : e.passes p = true) : e.abscissa p.y = p.x := by
  have hcross := ((passes_iff e p).1 hp).1
  have hne : e.stop.y - e.start.y ≠ 0 := sub_ne_zero.2 he.symm
  unfold abscissa
  field_simp
  linear_combination hcross

/-! ## Edges read backward -/

def swap (e : Edge K) : Edge K := ⟨e.stop, e.start⟩

theorem crosses_swap (e : Edge K) (p : Position K) : e.swap.crosses p = e.crosses p := by
  have hspans : e.swap.spans p.y = e.spans p.y := bne_comm ..
  unfold crosses
  rw [hspans]
  cases h : e.spans p.y with
  | false => rfl
  | true =>
    have hne : e.stop.y - e.start.y ≠ 0 := sub_ne_zero_of_spans h
    have habscissa : e.swap.abscissa p.y = e.abscissa p.y := by
      have hne' : e.start.y - e.stop.y ≠ 0 := by rwa [← neg_sub, neg_ne_zero]
      unfold abscissa swap
      dsimp only
      field_simp
      ring
    rw [habscissa]

theorem passes_swap [IsStrictOrderedRing K] (e : Edge K) (p : Position K) :
    e.swap.passes p = e.passes p := by
  rw [Bool.eq_iff_iff, passes_iff, passes_iff]
  unfold swap
  dsimp only
  rw [min_comm e.stop.x, max_comm e.stop.x, min_comm e.stop.y, max_comm e.stop.y]
  refine and_congr ⟨fun h => ?_, fun h => ?_⟩ Iff.rfl
  · linear_combination -h
  · linear_combination -h

end Edge

namespace Path

omit [Field K] [LinearOrder K] [FloorRing K] in
theorem edgeList_reverse (path : Path K) :
    edgeList path.reverse = (path.edgeList.map Edge.swap).reverse := by
  induction path with
  | nil => rfl
  | cons a path ih =>
    cases path with
    | nil => rfl
    | cons b path =>
      have hreverse : (a :: b :: path).reverse = path.reverse ++ b :: [a] := by simp
      rw [hreverse, edgeList_append, ← List.reverse_cons, ih]
      exact List.reverse_cons.symm

theorem crossings_reverse (path : Path K) (p : Position K) :
    crossings path.reverse p = path.crossings p := by
  unfold crossings
  rw [edgeList_reverse, List.countP_reverse, List.countP_map]
  exact List.countP_congr fun e _ => by rw [Function.comp_apply, Edge.crosses_swap]

theorem passes_reverse [IsStrictOrderedRing K] (path : Path K) (p : Position K) :
    passes path.reverse p = path.passes p := by
  unfold passes
  rw [edgeList_reverse, List.any_reverse, List.any_map]
  congr 1
  funext e
  exact Edge.passes_swap e p

/-! ## Lines that rise -/

def IsAscending (path : Path K) : Prop := path.Pairwise fun a b => a.y < b.y

def IsDescending (path : Path K) : Prop := path.Pairwise fun a b => b.y < a.y

omit [Field K] [FloorRing K] in
theorem IsAscending.first_le {a : Position K} {path : Path K} (h : IsAscending (a :: path))
    {q : Position K} (hq : q ∈ a :: path) : a.y ≤ q.y := by
  rcases List.mem_cons.1 hq with rfl | hq
  · exact le_rfl
  · exact ((List.pairwise_cons.1 h).1 q hq).le

omit [Field K] [FloorRing K] in
theorem IsAscending.le_last {path : Path K} (h : path.IsAscending) {last : Position K}
    (hlast : path.getLast? = some last) {q : Position K} (hq : q ∈ path) : q.y ≤ last.y := by
  obtain ⟨before, rfl⟩ := List.getLast?_eq_some_iff.1 hlast
  rcases List.mem_append.1 hq with hq | hq
  · exact ((List.pairwise_append.1 h).2.2 q hq last (List.mem_singleton_self last)).le
  · rw [List.mem_singleton.1 hq]

variable [IsStrictOrderedRing K]

/-- Where the first edge holds the point below its upper end, it alone is crossed. -/
theorem IsAscending.crossings_of_passes_first {a b : Position K} {path : Path K}
    (h : IsAscending (a :: b :: path)) {x : K} {p : Position K}
    (hx : Edge.passes ⟨a, b⟩ ⟨x, p.y⟩ = true) (hp : p.y < b.y) :
    crossings (a :: b :: path) p = (decide (x < p.x)).toNat := by
  obtain ⟨hfirst, hrest⟩ := List.pairwise_cons.1 h
  have hab : a.y < b.y := hfirst b List.mem_cons_self
  have hlower : a.y ≤ p.y := (Edge.le_of_passes (e := ⟨a, b⟩) hab hx).1
  have hedge : Edge.crosses ⟨a, b⟩ p = decide (x < p.x) := by
    have habscissa : Edge.abscissa ⟨a, b⟩ p.y = x :=
      Edge.abscissa_of_passes (e := ⟨a, b⟩) hab.ne hx
    unfold Edge.crosses Edge.spans
    rw [habscissa, decide_eq_true hlower, decide_eq_false (not_le.2 hp), Bool.bne_false,
      Bool.true_and]
  have habove : crossings (b :: path) p = 0 := by
    refine crossings_eq_zero false fun q hq => decide_eq_false (not_le.2 ?_)
    exact hp.trans_le (IsAscending.first_le hrest hq)
  rw [crossings_cons_cons, hedge, habove, Nat.add_zero]

/-- A ray at the height of a point of the line crosses the line when that point is on its way, but
not at the upper end. -/
theorem IsAscending.crossings_of_passes {path : Path K} (h : path.IsAscending) {x : K}
    {p : Position K} (hx : path.passes ⟨x, p.y⟩ = true) {first last : Position K}
    (hfirst : path.head? = some first) (hlast : path.getLast? = some last) :
    first.y ≤ p.y ∧
      (p.y < last.y ∧ path.crossings p = (decide (x < p.x)).toNat ∨
        p.y = last.y ∧ x = last.x ∧ path.crossings p = 0) := by
  induction path generalizing first with
  | nil => cases hfirst
  | cons a path ih =>
    cases hfirst
    cases path with
    | nil => cases hx
    | cons b path =>
      obtain ⟨hfirst, hrest⟩ := List.pairwise_cons.1 h
      have hab : a.y < b.y := hfirst b List.mem_cons_self
      -- a point at the height of `b` or above is left to the rest of the path
      have hcontinue (hb : b.y ≤ p.y) (hpasses : passes (b :: path) ⟨x, p.y⟩ = true) :
          a.y ≤ p.y ∧
            (p.y < last.y ∧ crossings (a :: b :: path) p = (decide (x < p.x)).toNat ∨
              p.y = last.y ∧ x = last.x ∧ crossings (a :: b :: path) p = 0) := by
        have hedge : Edge.crosses ⟨a, b⟩ p = false := by
          unfold Edge.crosses Edge.spans
          rw [decide_eq_true (hab.le.trans hb), decide_eq_true hb]
          rfl
        rw [crossings_cons_cons, hedge, Bool.toNat_false, Nat.zero_add]
        exact ⟨hab.le.trans hb, (ih hrest hpasses rfl hlast).2⟩
      rw [passes_cons_cons, Bool.or_eq_true] at hx
      rcases hx with hedge | hpasses
      · obtain ⟨hlower, hupper⟩ := Edge.le_of_passes (e := ⟨a, b⟩) hab hedge
        rcases hupper.lt_or_eq with hlt | heq
        · have hle : b.y ≤ last.y := IsAscending.le_last hrest hlast List.mem_cons_self
          exact ⟨hlower, Or.inl ⟨hlt.trans_le hle, h.crossings_of_passes_first hedge hlt⟩⟩
        · have hx : x = b.x := by
            have hstop := Edge.abscissa_of_passes hab.ne (Edge.passes_stop ⟨a, b⟩)
            have hpoint := Edge.abscissa_of_passes (e := ⟨a, b⟩) hab.ne hedge
            exact hpoint.symm.trans ((congrArg _ heq).trans hstop)
          cases path with
          | nil =>
            obtain rfl : b = last := Option.some.inj hlast
            refine ⟨hlower, Or.inr ⟨heq, hx, crossings_eq_zero true fun q hq => ?_⟩⟩
            rcases List.mem_cons.1 hq with rfl | hq
            · exact decide_eq_true hlower
            · rw [List.mem_singleton.1 hq]
              exact decide_eq_true heq.ge
          | cons c path =>
            have hb : (⟨x, p.y⟩ : Position K) = b := by rw [hx, heq]
            refine hcontinue heq.ge ?_
            rw [passes_cons_cons, hb, Edge.passes_start ⟨b, c⟩, Bool.true_or]
      · exact hcontinue (ih hrest hpasses rfl hlast).1 hpasses

/-- The same for a line that falls, whose upper end is the first vertex. -/
theorem IsDescending.crossings_of_passes {path : Path K} (h : path.IsDescending) {x : K}
    {p : Position K} (hx : path.passes ⟨x, p.y⟩ = true) {first last : Position K}
    (hfirst : path.head? = some first) (hlast : path.getLast? = some last) :
    last.y ≤ p.y ∧
      (p.y < first.y ∧ path.crossings p = (decide (x < p.x)).toNat ∨
        p.y = first.y ∧ x = first.x ∧ path.crossings p = 0) := by
  have hreverse : IsAscending path.reverse := List.pairwise_reverse.2 h
  have hcross := hreverse.crossings_of_passes (by rwa [passes_reverse])
    (by rw [List.head?_reverse, hlast]) (by rw [List.getLast?_reverse, hfirst])
  rwa [crossings_reverse] at hcross

end Path

end Graticule
