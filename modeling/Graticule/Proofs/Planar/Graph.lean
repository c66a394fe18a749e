import Graticule.Proofs.Planar.Winding
import Mathlib.Topology.Order.IntermediateValue
import Mathlib.Topology.Instances.Real.Lemmas

/-!
# Rising lines as graphs

A line that rises from vertex to vertex, prolonged vertically at both ends, has one point at every
height: `Path.abscissaAt` is its abscissa, a continuous function of the height.
-/

namespace Graticule

open scoped Exact

variable {K : Type} [Field K] [LinearOrder K] [IsStrictOrderedRing K] [FloorRing K]

omit [IsStrictOrderedRing K] in
theorem Edge.passes_vertical_iff (x y z : K) (p : Position K) :
    Edge.passes ⟨⟨x, y⟩, ⟨x, z⟩⟩ p = true ↔ p.x = x ∧ p.y ∈ Set.uIcc y z := by
  rw [passes_iff, sub_self, zero_mul, min_self, max_self]
  constructor
  · rintro ⟨-, hx, hy⟩
    exact ⟨le_antisymm hx.2 hx.1, hy⟩
  · rintro ⟨hx, hy⟩
    refine ⟨?_, ⟨hx.ge, hx.le⟩, hy⟩
    rw [hx, sub_self, mul_zero]

namespace Path

/-- Where a rising line is at a height; below its first vertex and above its last the vertex
counts. -/
def abscissaAt : Path K → K → K
  | [], _ => 0
  | [a], _ => a.x
  | a :: b :: path, y =>
    if y ≤ b.y then Edge.abscissa ⟨a, b⟩ (max a.y y) else abscissaAt (b :: path) y

theorem IsAscending.abscissaAt_of_le_first {a : Position K} {path : Path K}
    (h : IsAscending (a :: path)) {y : K} (hy : y ≤ a.y) : abscissaAt (a :: path) y = a.x := by
  cases path with
  | nil => rfl
  | cons b path =>
    have hab : a.y < b.y := (List.pairwise_cons.1 h).1 b List.mem_cons_self
    rw [abscissaAt, if_pos (hy.trans hab.le), max_eq_left hy]
    exact Edge.abscissa_start (e := ⟨a, b⟩) hab.ne

theorem IsAscending.abscissaAt_of_second_le {a b : Position K} {path : Path K}
    (h : IsAscending (a :: b :: path)) {y : K} (hy : b.y ≤ y) :
    abscissaAt (a :: b :: path) y = abscissaAt (b :: path) y := by
  obtain ⟨hfirst, hrest⟩ := List.pairwise_cons.1 h
  have hab : a.y < b.y := hfirst b List.mem_cons_self
  rw [abscissaAt]
  split_ifs with hle
  · obtain rfl : y = b.y := le_antisymm hle hy
    rw [IsAscending.abscissaAt_of_le_first hrest le_rfl, max_eq_right hab.le]
    exact Edge.abscissa_stop (e := ⟨a, b⟩) hab.ne
  · rfl

theorem IsAscending.abscissaAt_of_last_le {path : Path K} (h : path.IsAscending)
    {last : Position K} (hlast : path.getLast? = some last) {y : K} (hy : last.y ≤ y) :
    path.abscissaAt y = last.x := by
  induction path with
  | nil => cases hlast
  | cons a path ih =>
    cases path with
    | nil => exact congrArg Position.x (Option.some.inj hlast)
    | cons b path =>
      have hrest := (List.pairwise_cons.1 h).2
      have hle : b.y ≤ last.y := IsAscending.le_last hrest hlast List.mem_cons_self
      rw [h.abscissaAt_of_second_le (hle.trans hy)]
      exact ih hrest hlast

/-- The points of a rising line are on its graph. -/
theorem IsAscending.eq_abscissaAt {path : Path K} (h : path.IsAscending) {p : Position K}
    (hp : path.passes p = true) : p.x = path.abscissaAt p.y := by
  induction path with
  | nil => cases hp
  | cons a path ih =>
    cases path with
    | nil => cases hp
    | cons b path =>
      obtain ⟨hfirst, hrest⟩ := List.pairwise_cons.1 h
      have hab : a.y < b.y := hfirst b List.mem_cons_self
      rw [passes_cons_cons, Bool.or_eq_true] at hp
      rcases hp with hedge | hpasses
      · obtain ⟨hlower, hupper⟩ := Edge.le_of_passes (e := ⟨a, b⟩) hab hedge
        rw [abscissaAt, if_pos hupper, max_eq_right hlower]
        exact (Edge.abscissa_of_passes (e := ⟨a, b⟩) hab.ne hedge).symm
      · have hlower : b.y ≤ p.y := (IsAscending.crossings_of_passes hrest hpasses rfl
          (List.getLast?_eq_some_getLast (List.cons_ne_nil b path))).1
        rw [h.abscissaAt_of_second_le hlower]
        exact ih hrest hpasses

/-- Between the heights of its ends a rising line has a point at every height. -/
theorem IsAscending.passes_abscissaAt {path : Path K} (h : path.IsAscending)
    {first last : Position K} (hfirst : path.head? = some first)
    (hlast : path.getLast? = some last) {y : K} (hlower : first.y ≤ y) (hupper : y < last.y) :
    path.passes ⟨path.abscissaAt y, y⟩ = true := by
  induction path generalizing first with
  | nil => cases hfirst
  | cons a path ih =>
    cases hfirst
    cases path with
    | nil =>
      obtain rfl : a = last := Option.some.inj hlast
      exact absurd hupper hlower.not_gt
    | cons b path =>
      obtain ⟨hab, hrest⟩ := List.pairwise_cons.1 h
      have hab : a.y < b.y := hab b List.mem_cons_self
      rw [passes_cons_cons, Bool.or_eq_true, abscissaAt]
      split_ifs with hy
      · rw [max_eq_right hlower]
        exact Or.inl (Edge.passes_abscissa (e := ⟨a, b⟩) hab.ne
          ⟨(min_le_left _ _).trans hlower, hy.trans (le_max_right _ _)⟩)
      · exact Or.inr (ih hrest rfl hlast (not_le.1 hy).le)

end Path

theorem Path.IsAscending.continuous_abscissaAt {path : Path ℝ} (h : path.IsAscending) :
    Continuous path.abscissaAt := by
  induction path with
  | nil => exact continuous_const
  | cons a path ih =>
    cases path with
    | nil => exact continuous_const
    | cons b path =>
      obtain ⟨hfirst, hrest⟩ := List.pairwise_cons.1 h
      have hab : a.y < b.y := hfirst b List.mem_cons_self
      have hedge : Continuous fun y : ℝ => Edge.abscissa ⟨a, b⟩ (max a.y y) := by
        unfold Edge.abscissa
        fun_prop
      refine hedge.if_le (ih hrest) continuous_id continuous_const fun y hy => ?_
      have hagree := h.abscissaAt_of_second_le (le_of_eq hy.symm)
      rwa [abscissaAt, if_pos (le_of_eq hy)] at hagree

end Graticule
