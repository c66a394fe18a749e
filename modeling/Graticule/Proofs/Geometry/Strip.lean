import Graticule.Proofs.Geometry.Antimeridian
import Graticule.Proofs.Planar.Monotone

/-!
# The strip between the cut lines

Which points between two cut lines the half planes leave out.  Of a line that rises a point is
beyond exactly when it is to the right of it, so two rising lines leave the strip between them out
if the first is on the left.  The ends of a line that falls are prolonged across the whole box, past
the line itself: whether a point is beyond depends on the two ends as well, and a strip between
falling lines is left out only where their ends lie as `strip_left_out_iff` says.
-/

namespace Graticule.Antimeridian

open scoped Exact

section

variable {K : Type} [Field K] [LinearOrder K] [IsStrictOrderedRing K] [FloorRing K]
variable {bottom top x : K} {line : Path K} {p : Position K}

theorem isBeyond_of_ascending (hline : line.IsAscending) (hx : line.passes ⟨x, p.y⟩ = true)
    (hbottom : bottom < p.y) (htop : p.y < top) :
    isBeyond bottom top line p = decide (x < p.x) := by
  have hne : line ≠ [] := by
    rintro rfl
    cases hx
  obtain ⟨first, last, hfirst, hlast⟩ := exists_ends hne
  obtain ⟨hlower, ⟨hlt, hcross⟩ | ⟨heq, rfl, hcross⟩⟩ :=
    hline.crossings_of_passes hx hfirst hlast
  · rw [isBeyond_eq hfirst hlast hbottom htop, hcross, odd_toNat, decide_eq_true hlower,
      decide_eq_false (not_le.2 hlt)]
    simp
  · rw [isBeyond_eq hfirst hlast hbottom htop, hcross, decide_eq_true hlower,
      decide_eq_true heq.ge]
    simp

/-- The pieces that prolong a falling line pass the point too, at the abscissas of the ends. -/
theorem isBeyond_of_descending (hline : line.IsDescending) (hx : line.passes ⟨x, p.y⟩ = true)
    {first last : Position K} (hfirst : line.head? = some first)
    (hlast : line.getLast? = some last) (hbottom : bottom < p.y) (htop : p.y < top) :
    isBeyond bottom top line p =
      (decide (first.x < p.x) != (decide (x < p.x) != decide (last.x < p.x))) := by
  obtain ⟨hlower, ⟨hlt, hcross⟩ | ⟨heq, rfl, hcross⟩⟩ :=
    hline.crossings_of_passes hx hfirst hlast
  · rw [isBeyond_eq hfirst hlast hbottom htop, hcross, odd_toNat, decide_eq_true hlower,
      decide_eq_false (not_le.2 hlt)]
    simp
  · rw [isBeyond_eq hfirst hlast hbottom htop, hcross, decide_eq_true hlower,
      decide_eq_true heq.ge]
    simp

end

/-- Strictly between two abscissas a point is to the right of exactly one, and the order of the two
says of which. -/
theorem sides_of_between {x₁ x₂ x : ℝ} (hlower : min x₁ x₂ < x) (hupper : x < max x₁ x₂) :
    decide (x₁ < x) = decide (x₁ < x₂) ∧ decide (x₂ < x) = !decide (x₁ < x₂) := by
  rcases lt_or_ge x₁ x₂ with hlt | hge
  · rw [min_eq_left hlt.le] at hlower
    rw [max_eq_right hlt.le] at hupper
    rw [decide_eq_true hlower, decide_eq_true hlt, decide_eq_false hupper.not_gt]
    exact ⟨rfl, rfl⟩
  · rw [min_eq_right hge] at hlower
    rw [max_eq_left hge] at hupper
    rw [decide_eq_true hlower, decide_eq_false hge.not_gt, decide_eq_false hupper.not_gt]
    exact ⟨rfl, rfl⟩

/-- When both half planes leave out a point strictly between two lines: of rising lines if the first
is on the left, of falling lines if besides each line has its ends on one side of the point exactly
in that order.  A shape that is cut keeps at the point what the half planes leave. -/
theorem strip_left_out_iff {b : Box ℝ} {left right : Path ℝ} {p : Position ℝ} {x₁ x₂ : ℝ}
    (hp : b.Surrounds p) (hleft : left.passes ⟨x₁, p.y⟩ = true)
    (hright : right.passes ⟨x₂, p.y⟩ = true) (hlower : min x₁ x₂ < p.x)
    (hupper : p.x < max x₁ x₂) :
    (left.IsAscending → right.IsAscending →
      ((halfPlane b.left b.bottom b.top left).encloses p = false ∧
        (halfPlane b.right b.bottom b.top right).encloses p = false ↔ x₁ < x₂)) ∧
    (∀ first₁ last₁ first₂ last₂ : Position ℝ, left.IsDescending → right.IsDescending →
      left.head? = some first₁ → left.getLast? = some last₁ →
      right.head? = some first₂ → right.getLast? = some last₂ →
      ((halfPlane b.left b.bottom b.top left).encloses p = false ∧
        (halfPlane b.right b.bottom b.top right).encloses p = false ↔
          ((first₁.x < p.x ↔ last₁.x < p.x) ↔ x₁ < x₂) ∧
            ((first₂.x < p.x ↔ last₂.x < p.x) ↔ x₁ < x₂))) ∧
    ∀ [Planar (Extended ℝ)] (inverse : Position (Extended ℝ) → Position (Extended ℝ))
      (shape : Shape (Extended ℝ)),
      cutLine inverse (180 - seam) = left.map Position.finite →
      cutLine inverse (-180 + seam) = right.map Position.finite →
      Planar.IsExactAt p.finite .union
        [halfPlane (.finite b.left) (.finite b.bottom) (.finite b.top)
          (cutLine inverse (180 - seam))]
        [halfPlane (.finite b.right) (.finite b.bottom) (.finite b.top)
          (cutLine inverse (-180 + seam))] →
      IsCutAt p.finite (keptArea inverse b.finite) shape →
      (clip (keptArea inverse b.finite) shape).holds p.finite =
        (shape.holds p.finite &&
          ((halfPlane b.left b.bottom b.top left).encloses p ||
            (halfPlane b.right b.bottom b.top right).encloses p)) := by
  have hleftNe : left ≠ [] := by
    rintro rfl
    cases hleft
  have hrightNe : right ≠ [] := by
    rintro rfl
    cases hright
  obtain ⟨hx₁, hx₂⟩ := sides_of_between hlower hupper
  -- inside the box only the lines count: not beyond the first, beyond the second
  rw [encloses_leftHalf hp hleftNe, encloses_rightHalf hp hrightNe]
  refine ⟨?_, ?_, ?_⟩
  · intro hascending₁ hascending₂
    rw [isBeyond_of_ascending hascending₁ hleft hp.bottom hp.top,
      isBeyond_of_ascending hascending₂ hright hp.bottom hp.top, hx₁, hx₂]
    simp
  · intro first₁ last₁ first₂ last₂ hdescending₁ hdescending₂ hfirst₁ hlast₁ hfirst₂ hlast₂
    rw [isBeyond_of_descending hdescending₁ hleft hfirst₁ hlast₁ hp.bottom hp.top,
      isBeyond_of_descending hdescending₂ hright hfirst₂ hlast₂ hp.bottom hp.top, hx₁, hx₂]
    refine and_congr ?_ ?_
    · by_cases hfirst : first₁.x < p.x <;> by_cases hlast : last₁.x < p.x <;>
        by_cases horder : x₁ < x₂ <;> simp [hfirst, hlast, horder]
    · by_cases hfirst : first₂.x < p.x <;> by_cases hlast : last₂.x < p.x <;>
        by_cases horder : x₁ < x₂ <;> simp [hfirst, hlast, horder]
  · intro _ inverse shape hleftLine hrightLine hexact hcut
    rw [holds_clip hcut, encloses_keptArea hp hleftNe hrightNe hleftLine hrightLine hexact]

theorem passes_pair_iff (a b q : Position ℝ) :
    Path.passes [a, b] q = true ↔
      (b.x - a.x) * (q.y - a.y) = (b.y - a.y) * (q.x - a.x) ∧
        (min a.x b.x ≤ q.x ∧ q.x ≤ max a.x b.x) ∧ min a.y b.y ≤ q.y ∧ q.y ≤ max a.y b.y := by
  have hsingle : Path.passes [b] q = false := rfl
  rw [Path.passes_cons_cons, hsingle, Bool.or_false, Edge.passes_iff]

/-- A vertical strip of two units is left out, whether its lines rise or fall, and of the rectangle
across the antimeridian the points at the seam go. -/
theorem strip_left_out_iff_verticals :
    ((halfPlane (-10) (-5) 5 [⟨-1, -90⟩, ⟨-1, 90⟩]).encloses (⟨0, 1⟩ : Position ℝ) = false ∧
      (halfPlane 10 (-5) 5 [⟨1, -90⟩, ⟨1, 90⟩]).encloses (⟨0, 1⟩ : Position ℝ) = false) ∧
    ((halfPlane (-10) (-5) 5 [⟨-1, 90⟩, ⟨-1, -90⟩]).encloses (⟨0, 1⟩ : Position ℝ) = false ∧
      (halfPlane 10 (-5) 5 [⟨1, 90⟩, ⟨1, -90⟩]).encloses (⟨0, 1⟩ : Position ℝ) = false) ∧
    (@clip _ _ besideSeam (@keptArea _ _ besideSeam fromSeam (Box.finite ⟨-10, -5, 10, 5⟩))
      acrossSeam.shape).holds (Position.finite ⟨0, 1⟩) = false := by
  have hp : (⟨-10, -5, 10, 5⟩ : Box ℝ).Surrounds ⟨0, 1⟩ := by
    constructor <;> norm_num
  refine ⟨?_, ?_, ?_⟩
  · have hascending (x : ℝ) : Path.IsAscending [⟨x, -90⟩, ⟨x, 90⟩] := by
      refine List.pairwise_pair.2 ?_
      norm_num
    have hpasses (x : ℝ) : Path.passes [⟨x, -90⟩, ⟨x, 90⟩] ⟨x, 1⟩ = true := by
      rw [passes_pair_iff]
      norm_num
    have hstrip := (strip_left_out_iff hp (hpasses (-1)) (hpasses 1) (by norm_num)
      (by norm_num)).1 (hascending (-1)) (hascending 1)
    exact hstrip.2 (by norm_num)
  · have hdescending (x : ℝ) : Path.IsDescending [⟨x, 90⟩, ⟨x, -90⟩] := by
      refine List.pairwise_pair.2 ?_
      norm_num
    have hpasses (x : ℝ) : Path.passes [⟨x, 90⟩, ⟨x, -90⟩] ⟨x, 1⟩ = true := by
      rw [passes_pair_iff]
      norm_num
    have hstrip := (strip_left_out_iff hp (hpasses (-1)) (hpasses 1) (by norm_num)
      (by norm_num)).2.1 _ _ _ _ (hdescending (-1)) (hdescending 1) rfl rfl rfl rfl
    exact hstrip.2 ⟨by norm_num, by norm_num⟩
  · have hpasses (x : ℝ) : (verticalCut x).passes ⟨x, 1⟩ = true := by
      have hrange : List.range 181 = List.range 91 ++ 91 :: 92 :: List.range' 93 88 := by
        decide +kernel
      have hvertex : (⟨x, 1⟩ : Position ℝ) = ⟨x, -90 + (91 : ℕ)⟩ := by norm_num
      unfold verticalCut
      rw [hrange, List.map_append, List.map_cons, List.map_cons, Path.passes_append,
        Path.passes_cons_cons, hvertex, Edge.passes_start ⟨⟨x, -90 + (91 : ℕ)⟩, _⟩, Bool.true_or,
        Bool.or_true]
    have hholds := @(strip_left_out_iff hp (hpasses (-(1 / 10 ^ 9))) (hpasses (1 / 10 ^ 9))
      (by norm_num) (by norm_num)).2.2 besideSeam fromSeam acrossSeam.shape cutLine_fromSeam_west
      cutLine_fromSeam_east (isExactAt_besideSeam hp) (isCutAt_besideSeam hp)
    refine hholds.trans ?_
    rw [encloses_leftHalf hp (verticalCut_ne_nil _), encloses_rightHalf hp (verticalCut_ne_nil _),
      isBeyond_verticalCut _ hp.bottom hp.top, isBeyond_verticalCut _ hp.bottom hp.top]
    norm_num

/-- Two falling lines from one point above the box: at half their height the strip between them lies
in the half plane from the right. -/
theorem not_strip_left_out :
    ¬ ∀ (b : Box ℝ) (left right : Path ℝ) (p : Position ℝ) (x₁ x₂ : ℝ),
      (left.IsAscending ∧ right.IsAscending ∨ left.IsDescending ∧ right.IsDescending) →
      (∀ q, b.Surrounds q → left.passes q = true → right.passes q = false) →
      b.Surrounds p → left.passes ⟨x₁, p.y⟩ = true → right.passes ⟨x₂, p.y⟩ = true →
      min x₁ x₂ < p.x → p.x < max x₁ x₂ →
      (halfPlane b.left b.bottom b.top left).encloses p = false ∧
        (halfPlane b.right b.bottom b.top right).encloses p = false := by
  intro h
  obtain ⟨p, hx, hy⟩ : ∃ p : Position ℝ, p.x = 1 / 10 ∧ p.y = -15 := ⟨⟨1 / 10, -15⟩, rfl, rfl⟩
  have hp : (⟨-3, -20, 3, -10⟩ : Box ℝ).Surrounds p := by
    constructor <;> norm_num [hx, hy]
  have hdescending (x : ℝ) : Path.IsDescending [⟨0, 0⟩, ⟨x, -30⟩] := by
    refine List.pairwise_pair.2 ?_
    norm_num
  have hleft : Path.passes [⟨0, 0⟩, ⟨1, -30⟩] ⟨1 / 2, p.y⟩ = true := by
    rw [passes_pair_iff]
    norm_num [hy]
  have hright : Path.passes [⟨0, 0⟩, ⟨-1, -30⟩] ⟨-1 / 2, p.y⟩ = true := by
    rw [passes_pair_iff]
    norm_num [hy]
  have hapart (q : Position ℝ) (hq : (⟨-3, -20, 3, -10⟩ : Box ℝ).Surrounds q)
      (hon : Path.passes [⟨0, 0⟩, ⟨1, -30⟩] q = true) :
      Path.passes [⟨0, 0⟩, ⟨-1, -30⟩] q = false := by
    -- the straight lines meet only in their common first point, above the box
    rw [← Bool.not_eq_true, passes_pair_iff]
    rintro ⟨hsecond, -⟩
    obtain ⟨hfirst, -⟩ := (passes_pair_iff _ _ _).1 hon
    have htop : q.y < -10 := hq.top
    dsimp only at hfirst hsecond
    linarith
  -- as about a pole, the first line is the one on the right
  have hout := (h ⟨-3, -20, 3, -10⟩ _ _ p (1 / 2) (-1 / 2)
    (Or.inr ⟨hdescending 1, hdescending (-1)⟩) hapart hp hleft hright (by norm_num [hx])
    (by norm_num [hx])).2
  rw [encloses_rightHalf hp (List.cons_ne_nil _ _),
    isBeyond_of_descending (hdescending (-1)) hright rfl rfl hp.bottom hp.top] at hout
  norm_num [hx] at hout

end Graticule.Antimeridian
