import Graticule.Proofs.Geometry.Strip
import Graticule.Proofs.Planar.Graph

/-!
# Sides of the border of a half plane

The border of a half plane is the cut line with its ends prolonged vertically.  For a line that rises
it is the graph of a continuous function of the height, `eq_abscissaAt_iff`, so a connected set away
from it lies on one side.  Inside the box the half plane from the left encloses what is not to the
right of it, `encloses_leftHalf_iff`.
-/

namespace Graticule

open scoped Exact

namespace Position

section

variable {K : Type} [Field K] [LinearOrder K] [IsStrictOrderedRing K] [FloorRing K]

/-- The path has a point at the height of `p` and to the right of it. -/
def IsLeftOf (p : Position K) (path : Path K) : Prop :=
  ∃ x, path.passes ⟨x, p.y⟩ = true ∧ p.x < x

/-- The path has a point at the height of `p` and to the left of it. -/
def IsRightOf (p : Position K) (path : Path K) : Prop :=
  ∃ x, path.passes ⟨x, p.y⟩ = true ∧ x < p.x

end

end Position

namespace Antimeridian

section

variable {K : Type} [Field K] [LinearOrder K] [IsStrictOrderedRing K] [FloorRing K]
variable {bottom top : K} {line : Path K} {first last p : Position K}

/-- The point is on one of the verticals that prolong a line, from its first point downward or from
its last point upward. -/
def OnProlongation (line : Path K) (p : Position K) : Prop :=
  (∃ first, line.head? = some first ∧ p.x = first.x ∧ p.y ≤ first.y) ∨
    ∃ last, line.getLast? = some last ∧ p.x = last.x ∧ last.y ≤ p.y

omit [Field K] [IsStrictOrderedRing K] [FloorRing K] in
theorem onProlongation_iff (hfirst : line.head? = some first) (hlast : line.getLast? = some last) :
    OnProlongation line p ↔ p.x = first.x ∧ p.y ≤ first.y ∨ p.x = last.x ∧ last.y ≤ p.y := by
  unfold OnProlongation
  simp only [hfirst, hlast, Option.some.injEq, exists_eq_left']

variable (hne : line ≠ [])

include hne

omit [IsStrictOrderedRing K] in
/-- Between the heights of the box the prolonged line consists of the line and its prolongations. -/
theorem passes_extension_iff (hbottom : bottom ≤ p.y) (htop : p.y ≤ top) :
    (extension bottom top line).passes p = true ↔
      line.passes p = true ∨ OnProlongation line p := by
  obtain ⟨first, last, hfirst, hlast⟩ := exists_ends hne
  have hstart (start : Position K) (path : Path K) :
      Path.passes (start :: (line ++ path)) p =
        (Edge.passes ⟨start, first⟩ p || Path.passes (line ++ path) p) := by
    obtain ⟨rest, rfl⟩ := List.head?_eq_some_iff.1 hfirst
    exact Path.passes_cons_cons ..
  have hstop (stop : Position K) :
      Path.passes (line ++ [stop]) p = (line.passes p || Edge.passes ⟨last, stop⟩ p) := by
    obtain ⟨before, rfl⟩ := List.getLast?_eq_some_iff.1 hlast
    rw [List.append_assoc]
    refine (Path.passes_append before last [stop] p).trans (congrArg _ ?_)
    exact Bool.or_false _
  have hlower : Edge.passes ⟨⟨first.x, min bottom first.y⟩, first⟩ p = true ↔
      p.x = first.x ∧ p.y ≤ first.y := by
    refine (Edge.passes_vertical_iff ..).trans (and_congr_right fun _ => ?_)
    rw [Set.uIcc_of_le (min_le_right _ _)]
    exact and_iff_right ((min_le_left _ _).trans hbottom)
  have hupper : Edge.passes ⟨last, ⟨last.x, max top last.y⟩⟩ p = true ↔
      p.x = last.x ∧ last.y ≤ p.y := by
    refine (Edge.passes_vertical_iff ..).trans (and_congr_right fun _ => ?_)
    rw [Set.uIcc_of_le (le_max_right _ _)]
    exact and_iff_left (htop.trans (le_max_left _ _))
  rw [extension_eq bottom top hfirst hlast, List.cons_append, hstart, hstop, Bool.or_eq_true,
    Bool.or_eq_true, onProlongation_iff hfirst hlast, ← hlower, ← hupper, or_left_comm]
  exact Iff.rfl

variable (hline : line.IsAscending)

include hline

/-- The graph of a rising line consists of the line and its prolongations. -/
theorem eq_abscissaAt_iff :
    p.x = line.abscissaAt p.y ↔ line.passes p = true ∨ OnProlongation line p := by
  obtain ⟨first, last, hfirst, hlast⟩ := exists_ends hne
  obtain ⟨rest, rfl⟩ := List.head?_eq_some_iff.1 hfirst
  rw [onProlongation_iff hfirst hlast]
  constructor
  · intro hx
    by_cases hlower : p.y ≤ first.y
    · rw [hline.abscissaAt_of_le_first hlower] at hx
      exact Or.inr (Or.inl ⟨hx, hlower⟩)
    · by_cases hupper : last.y ≤ p.y
      · rw [hline.abscissaAt_of_last_le hlast hupper] at hx
        exact Or.inr (Or.inr ⟨hx, hupper⟩)
      · have hpasses := hline.passes_abscissaAt rfl hlast (not_le.1 hlower).le (not_le.1 hupper)
        rw [← hx] at hpasses
        exact Or.inl hpasses
  · rintro (hpasses | ⟨hx, hy⟩ | ⟨hx, hy⟩)
    · exact hline.eq_abscissaAt hpasses
    · rw [hline.abscissaAt_of_le_first hy, hx]
    · rw [hline.abscissaAt_of_last_le hlast hy, hx]

theorem passes_extension_iff_eq (hbottom : bottom ≤ p.y) (htop : p.y ≤ top) (x : K) :
    (extension bottom top line).passes ⟨x, p.y⟩ = true ↔ x = line.abscissaAt p.y :=
  (passes_extension_iff (p := ⟨x, p.y⟩) hne hbottom htop).trans
    (eq_abscissaAt_iff (p := ⟨x, p.y⟩) hne hline).symm

theorem isLeftOf_extension_iff (hbottom : bottom ≤ p.y) (htop : p.y ≤ top) :
    p.IsLeftOf (extension bottom top line) ↔ p.x < line.abscissaAt p.y := by
  unfold Position.IsLeftOf
  simp only [passes_extension_iff_eq hne hline hbottom htop, exists_eq_left]

theorem isRightOf_extension_iff (hbottom : bottom ≤ p.y) (htop : p.y ≤ top) :
    p.IsRightOf (extension bottom top line) ↔ line.abscissaAt p.y < p.x := by
  unfold Position.IsRightOf
  simp only [passes_extension_iff_eq hne hline hbottom htop, exists_eq_left]

/-- Inside the box a point is beyond a rising line when it is to the right of its graph. -/
theorem isBeyond_eq_decide (hbottom : bottom < p.y) (htop : p.y < top) :
    isBeyond bottom top line p = decide (line.abscissaAt p.y < p.x) := by
  obtain ⟨first, last, hfirst, hlast⟩ := exists_ends hne
  obtain ⟨rest, rfl⟩ := List.head?_eq_some_iff.1 hfirst
  have hends : first.y ≤ last.y := hline.le_last hlast List.mem_cons_self
  by_cases hlower : first.y ≤ p.y
  · by_cases hupper : p.y < last.y
    · exact isBeyond_of_ascending hline (hline.passes_abscissaAt rfl hlast hlower hupper) hbottom
        htop
    · have hcrossings : Path.crossings (first :: rest) p = 0 := by
        refine Path.crossings_eq_zero true fun q hq => decide_eq_true ?_
        exact (hline.le_last hlast hq).trans (not_lt.1 hupper)
      rw [isBeyond_eq hfirst hlast hbottom htop, hcrossings, decide_eq_true hlower,
        decide_eq_true (not_lt.1 hupper), hline.abscissaAt_of_last_le hlast (not_lt.1 hupper)]
      simp
  · have hcrossings : Path.crossings (first :: rest) p = 0 := by
      refine Path.crossings_eq_zero false fun q hq => decide_eq_false fun hle => ?_
      exact hlower ((hline.first_le hq).trans hle)
    rw [isBeyond_eq hfirst hlast hbottom htop, hcrossings, decide_eq_false hlower,
      decide_eq_false fun hle => hlower (hends.trans hle),
      hline.abscissaAt_of_le_first (not_le.1 hlower).le]
    simp

end

section

variable {b : Box ℝ} {line : Path ℝ}

/-- The half plane from the left encloses what is not to the right of the prolonged line. -/
theorem encloses_leftHalf_iff (hne : line ≠ []) (hline : line.IsAscending) {p : Position ℝ}
    (hp : b.Surrounds p) :
    (halfPlane (.finite b.left) (.finite b.bottom) (.finite b.top)
        (line.map Position.finite)).encloses p.finite = true ↔
      ¬ p.IsRightOf (extension b.bottom b.top line) := by
  rw [halfPlane_finite, Polygon.encloses_finite, encloses_leftHalf hp hne,
    isBeyond_eq_decide hne hline hp.bottom hp.top,
    isRightOf_extension_iff hne hline hp.bottom.le hp.top.le]
  simp

/-- A set with a neighbourhood of a point on a prolongation has points on both sides. -/
theorem exists_sides_of_interior (hne : line ≠ []) (hline : line.IsAscending)
    {region : Set (ℝ × ℝ)} {q : ℝ × ℝ} (hq : q ∈ interior region)
    (hon : OnProlongation line ⟨q.1, q.2⟩) :
    (∃ x, (x, q.2) ∈ region ∧ x < line.abscissaAt q.2) ∧
      ∃ x, (x, q.2) ∈ region ∧ line.abscissaAt q.2 < x := by
  have hx : q.1 = line.abscissaAt q.2 :=
    (eq_abscissaAt_iff (p := ⟨q.1, q.2⟩) hne hline).2 (Or.inr hon)
  have hnear : {x | (x, q.2) ∈ region} ∈ nhds q.1 := by
    have hcontinuous : Continuous fun x : ℝ => (x, q.2) := by fun_prop
    exact hcontinuous.continuousAt.preimage_mem_nhds (mem_interior_iff_mem_nhds.1 hq)
  obtain ⟨l, u, ⟨hl, hu⟩, hsubset⟩ := mem_nhds_iff_exists_Ioo_subset.1 hnear
  rw [← hx]
  obtain ⟨x, hlx, hxq⟩ := exists_between hl
  obtain ⟨z, hqz, hzu⟩ := exists_between hu
  exact ⟨⟨x, hsubset ⟨hlx, hxq.trans hu⟩, hxq⟩, z, hsubset ⟨hl.trans hqz, hzu⟩, hqz⟩

end

/-- Where two functions differ on a connected set, one of them is less throughout. -/
theorem forall_lt_or_forall_lt {s : Set (ℝ × ℝ)} (hs : IsPreconnected s) {f g : ℝ × ℝ → ℝ}
    (hf : Continuous f) (hg : Continuous g) (h : ∀ q ∈ s, f q ≠ g q) :
    (∀ q ∈ s, f q < g q) ∨ ∀ q ∈ s, g q < f q := by
  by_contra hboth
  push Not at hboth
  obtain ⟨⟨a, ha, hle⟩, b, hb, hge⟩ := hboth
  obtain ⟨q, hq, heq⟩ :=
    hs.intermediate_value₂ hb ha hf.continuousOn hg.continuousOn hge hle
  exact h q hq heq

end Antimeridian

end Graticule
