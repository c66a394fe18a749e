import Graticule.Planar.Contact
import Graticule.Proofs.Planar.Place

/-!
# Lines that reach shapes, over exact scalars

Two edges with a common point are found to meet, `Edge.meets_of_passes`, and boxes with a common
point are not apart.  So an edge that is not found to meet a path has no point on it,
`Path.isApart_of_meetsEdge`.
-/

namespace Graticule

open scoped Exact

variable {K : Type} [Field K] [LinearOrder K] [FloorRing K]

/-! ## Edges with a common point -/

omit [FloorRing K] in
/-- Where values of one sign average to zero they are zero. -/
theorem Turn.eq_zero_of_ofArea_eq [IsStrictOrderedRing K] {a b t : K} (ht : 0 ≤ t ∧ t ≤ 1)
    (h : a + t * (b - a) = 0) (hturn : ofArea a = ofArea b) : a = 0 ∧ b = 0 := by
  obtain ⟨hmin, hmax⟩ := h ▸ add_mul_mem_uIcc (a := a) (b := b) ht
  rcases lt_trichotomy a 0 with ha | rfl | ha
  · rw [ofArea_of_neg ha] at hturn
    rcases lt_trichotomy b 0 with hb | rfl | hb
    · exact absurd hmax (max_lt ha hb).not_ge
    · rw [ofArea_zero] at hturn
      cases hturn
    · rw [ofArea_of_pos hb] at hturn
      cases hturn
  · rw [ofArea_zero, eq_comm, ← beq_iff_eq, ofArea_beq_straight, decide_eq_true_iff] at hturn
    exact ⟨rfl, hturn⟩
  · rw [ofArea_of_pos ha] at hturn
    rcases lt_trichotomy b 0 with hb | rfl | hb
    · rw [ofArea_of_neg hb] at hturn
      cases hturn
    · rw [ofArea_zero] at hturn
      cases hturn
    · exact absurd hmin (lt_min ha hb).not_ge

omit [FloorRing K] in
/-- Two intervals with a common value: an end of the second is in the first, or the upper end of the
first is in the second. -/
theorem end_mem_of_mem_uIcc [IsStrictOrderedRing K] {a b r : K} (hr : 0 ≤ r ∧ r ≤ 1)
    (h : r ∈ Set.uIcc a b) :
    (0 ≤ a ∧ a ≤ 1) ∨ (0 ≤ b ∧ b ≤ 1) ∨ 1 ∈ Set.uIcc a b := by
  rw [Set.mem_uIcc] at h ⊢
  grind

namespace Edge

theorem side_add_mul (e f : Edge K) {p : Position K} {t : K}
    (hx : p.x = f.start.x + t * (f.stop.x - f.start.x))
    (hy : p.y = f.start.y + t * (f.stop.y - f.start.y)) :
    e.side p = e.side f.start + t * (e.side f.stop - e.side f.start) := by
  rw [side_eq, side_eq, side_eq, hx, hy]
  ring

theorem side_sub_side (e f : Edge K) :
    e.side f.stop - e.side f.start = f.side e.start - f.side e.stop := by
  rw [side_eq, side_eq, side_eq, side_eq]
  ring

theorem side_of_passes {e : Edge K} {p : Position K} (h : e.passes p = true) : e.side p = 0 := by
  rw [side_eq, ((passes_iff e p).1 h).1, sub_self]

variable [IsStrictOrderedRing K]

/-- A point on the straight line through an edge divides the edge, perhaps outside. -/
theorem exists_eq_of_side_eq_zero {e : Edge K} (he : e.start ≠ e.stop) {q : Position K}
    (h : e.side q = 0) : ∃ t, q.x = e.start.x + t * (e.stop.x - e.start.x) ∧
      q.y = e.start.y + t * (e.stop.y - e.start.y) := by
  rw [side_eq, sub_eq_zero] at h
  by_cases hx : e.stop.x - e.start.x = 0
  · have hy : e.stop.y - e.start.y ≠ 0 := by
      intro hy
      refine he ?_
      rw [Position.mk.injEq]
      exact ⟨(sub_eq_zero.1 hx).symm, (sub_eq_zero.1 hy).symm⟩
    refine ⟨(q.y - e.start.y) / (e.stop.y - e.start.y), ?_, ?_⟩
    · rw [hx, zero_mul, zero_eq_mul] at h
      rw [hx, mul_zero, add_zero, ← sub_eq_zero]
      exact h.resolve_left hy
    · rw [div_mul_cancel₀ _ hy, add_sub_cancel]
  · refine ⟨(q.x - e.start.x) / (e.stop.x - e.start.x), ?_, ?_⟩
    · rw [div_mul_cancel₀ _ hx, add_sub_cancel]
    · rw [div_mul_eq_mul_div, mul_comm, ← h, mul_div_cancel_left₀ _ hx, add_sub_cancel]

theorem isBetween_of_eq_add_mul {q a b : Position K} {t : K} (ht : 0 ≤ t ∧ t ≤ 1)
    (hx : q.x = a.x + t * (b.x - a.x)) (hy : q.y = a.y + t * (b.y - a.y)) :
    q.isBetween a b = true := by
  unfold Position.isBetween
  rw [Bool.and_eq_true, Scalar.isBetween_iff, Scalar.isBetween_iff, hx, hy]
  exact ⟨add_mul_mem_uIcc ht, add_mul_mem_uIcc ht⟩

/-- Of two edges on one straight line that have a common point, one has an end in the other's box. -/
theorem isBetween_of_straight {e f : Edge K} (he : e.start ≠ e.stop) (hstart : e.side f.start = 0)
    (hstop : e.side f.stop = 0) {p : Position K} (hep : e.passes p = true)
    (hfp : f.passes p = true) :
    (f.start.isBetween e.start e.stop || f.stop.isBetween e.start e.stop ||
      e.stop.isBetween f.start f.stop) = true := by
  obtain ⟨r, hr, hpx, hpy⟩ := (passes_iff_exists e p).1 hep
  obtain ⟨t, ht, hqx, hqy⟩ := (passes_iff_exists f p).1 hfp
  obtain ⟨a, hax, hay⟩ := exists_eq_of_side_eq_zero he hstart
  obtain ⟨b, hbx, hby⟩ := exists_eq_of_side_eq_zero he hstop
  -- measured along `e`, the common point divides `f` as well
  have hcommon : r = a + t * (b - a) := by
    have hx : (r - (a + t * (b - a))) * (e.stop.x - e.start.x) = 0 := by
      rw [hax, hbx] at hqx
      linear_combination hqx - hpx
    have hy : (r - (a + t * (b - a))) * (e.stop.y - e.start.y) = 0 := by
      rw [hay, hby] at hqy
      linear_combination hqy - hpy
    by_contra hne
    have hfactor : r - (a + t * (b - a)) ≠ 0 := sub_ne_zero.2 hne
    refine he ?_
    rw [Position.mk.injEq]
    exact ⟨(sub_eq_zero.1 ((mul_eq_zero.1 hx).resolve_left hfactor)).symm,
      (sub_eq_zero.1 ((mul_eq_zero.1 hy).resolve_left hfactor)).symm⟩
  have hmem : r ∈ Set.uIcc a b := hcommon ▸ add_mul_mem_uIcc ht
  rcases end_mem_of_mem_uIcc hr hmem with ha | hb | hone
  · rw [isBetween_of_eq_add_mul ha hax hay, Bool.true_or, Bool.true_or]
  · rw [isBetween_of_eq_add_mul hb hbx hby, Bool.or_true, Bool.true_or]
  · obtain ⟨v, hv, hone⟩ := exists_eq_add_mul hone
    have hx : e.stop.x = f.start.x + v * (f.stop.x - f.start.x) := by
      rw [hax, hbx]
      linear_combination (e.stop.x - e.start.x) * hone
    have hy : e.stop.y = f.start.y + v * (f.stop.y - f.start.y) := by
      rw [hay, hby]
      linear_combination (e.stop.y - e.start.y) * hone
    rw [isBetween_of_eq_add_mul hv hx hy, Bool.or_true]

variable [Planar (Extended K)] (hturn : Planar.TurnsExactly K)

include hturn

/-- Edges with a common point are found to meet. -/
theorem meets_of_passes {e f : Edge K} {p : Position K} (hep : e.passes p = true)
    (hfp : f.passes p = true) : e.finite.meets f.finite = true := by
  have hbeq : (e.finite.start == e.finite.stop) = (e.start == e.stop) := Position.beq_finite ..
  unfold meets
  rw [hbeq]
  split_ifs with he
  · obtain ⟨t, -, hx, hy⟩ := (passes_iff_exists e p).1 hep
    have hp : e.start = p := by
      rw [← Position.eq_of_beq he, sub_self, mul_zero, add_zero] at hx hy
      rw [Position.mk.injEq]
      exact ⟨hx.symm, hy.symm⟩
    change f.finite.covers e.start.finite = true
    rw [covers_finite hturn, hp, hfp]
  · have hne : e.start ≠ e.stop := fun heq => he (heq ▸ Position.beq_self e.start)
    obtain ⟨r, hr, hpx, hpy⟩ := (passes_iff_exists e p).1 hep
    obtain ⟨t, ht, hqx, hqy⟩ := (passes_iff_exists f p).1 hfp
    have he0 : e.side f.start + t * (e.side f.stop - e.side f.start) = 0 :=
      (side_add_mul e f hqx hqy).symm.trans (side_of_passes hep)
    have hf0 : f.side e.start + r * (f.side e.stop - f.side e.start) = 0 :=
      (side_add_mul f e hpx hpy).symm.trans (side_of_passes hfp)
    have hsides := side_sub_side e f
    have hturns : e.finite.turnTo f.finite.start = Turn.ofArea (e.side f.start) ∧
        e.finite.turnTo f.finite.stop = Turn.ofArea (e.side f.stop) ∧
        f.finite.turnTo e.finite.start = Turn.ofArea (f.side e.start) ∧
        f.finite.turnTo e.finite.stop = Turn.ofArea (f.side e.stop) :=
      ⟨turnTo_finite hturn .., turnTo_finite hturn .., turnTo_finite hturn ..,
        turnTo_finite hturn ..⟩
    rw [hturns.1, hturns.2.1, hturns.2.2.1, hturns.2.2.2]
    dsimp only
    split_ifs with hapart
    · rw [bne_iff_ne] at hapart ⊢
      intro heq
      obtain ⟨hstart, hstop⟩ := Turn.eq_zero_of_ofArea_eq hr hf0 heq
      rw [hstart, hstop, sub_self, sub_eq_zero] at hsides
      exact hapart (congrArg _ hsides.symm)
    · rw [Bool.not_eq_true, bne_eq_false_iff_eq] at hapart
      obtain ⟨hstart, hstop⟩ := Turn.eq_zero_of_ofArea_eq ht he0 hapart
      have hbetween := isBetween_of_straight hne hstart hstop hep hfp
      rw [← Position.isBetween_finite, ← Position.isBetween_finite,
        ← Position.isBetween_finite e.stop] at hbetween
      rw [hstart, Turn.ofArea_zero, beq_self_eq_true, Bool.true_and]
      exact hbetween

end Edge

/-! ## Boxes with a common point -/

omit [Field K] [LinearOrder K] [FloorRing K] in
theorem Position.finite_injective : Function.Injective (finite (K := K)) := by
  intro p q h
  cases p
  cases q
  cases h
  rfl

namespace Box

omit [Field K] [LinearOrder K] [FloorRing K] in
theorem finite_injective : Function.Injective (finite (K := K)) := by
  intro b c h
  cases b
  cases c
  cases h
  rfl

theorem overlaps_of_holds {b c : Box K} {p : Position K} (hb : b.Holds p) (hc : c.Holds p) :
    b.finite.overlaps c.finite = true := by
  unfold overlaps finite
  simp only [Extended.finite_lt]
  simp [(hc.left.trans hb.right), (hc.bottom.trans hb.top), (hb.left.trans hc.right),
    (hb.bottom.trans hc.top)]

end Box

namespace Path

theorem mem_close {α : Type} [Scalar α] {path : Path α} {p : Position α} (hp : p ∈ path) :
    p ∈ path.close := by
  cases path with
  | nil => exact hp
  | cons q qs =>
    rw [close_cons]
    split
    · exact hp
    · exact List.mem_append_left _ hp

theorem holds_of_box? {path : Path K} {b : Box K} (h : path.box? = some b) {q : Position K}
    (hq : q ∈ path) : b.Holds q := by
  cases path with
  | nil => cases hq
  | cons p ps =>
    rw [box?_cons] at h
    cases h
    have hmem (f : Position K → K) : f q ∈ f p :: ps.map f := List.mem_map_of_mem (f := f) hq
    exact ⟨(isLeast_foldl_min _ _).2 (hmem (·.x)), (isGreatest_foldl_max _ _).2 (hmem (·.x)),
      (isLeast_foldl_min _ _).2 (hmem (·.y)), (isGreatest_foldl_max _ _).2 (hmem (·.y))⟩

theorem exists_eq_top {path : Path K} {b : Box K} (h : path.box? = some b) :
    ∃ q ∈ path, q.y = b.top := by
  cases path with
  | nil => cases h
  | cons p ps =>
    rw [box?_cons] at h
    cases h
    have hmem : _ ∈ p.y :: ps.map (·.y) := (isGreatest_foldl_max p.y (ps.map (·.y))).1
    exact List.mem_map.1 (List.map_cons ▸ hmem)

theorem holds_of_box?_finite {path : Path K} {b : Box K}
    (h : Path.box? (path.map Position.finite) = some b.finite) {q : Position K} (hq : q ∈ path) :
    b.Holds q := by
  rw [box?_finite, Option.map_eq_some_iff] at h
  obtain ⟨c, hc, hfinite⟩ := h
  obtain rfl : c = b := Box.finite_injective hfinite
  exact holds_of_box? hc hq

theorem exists_box? {path : Path K} (h : path ≠ []) : ∃ b, path.box? = some b := by
  cases path with
  | nil => exact absurd rfl h
  | cons p ps => exact ⟨_, box?_cons p ps⟩

theorem holds_of_passes {path : Path K} {b : Box K} (h : path.box? = some b) {p : Position K}
    (hp : path.passes p = true) : b.Holds p := by
  obtain ⟨e, he, hpasses⟩ := List.any_eq_true.1 hp
  obtain ⟨hstart, hstop⟩ := mem_of_mem_edgeList he
  exact Edge.holds_of_passes (holds_of_box? h hstart) (holds_of_box? h hstop) hpasses

end Path

theorem areApart_eq_false {b c : Box K} {p : Position K} (hb : b.Holds p) (hc : c.Holds p) :
    areApart (some b.finite) (some c.finite) = false := by
  change (!b.finite.overlaps c.finite) = false
  rw [Box.overlaps_of_holds hb hc]
  rfl

/-- An edge that is not found to meet a path has no point on it. -/
theorem Path.isApart_of_meetsEdge [IsStrictOrderedRing K] [Planar (Extended K)]
    (hturn : Planar.TurnsExactly K) {path : Path K} {e : Edge K}
    (h : Path.meetsEdge (path.map Position.finite) e.finite = false) {f : Edge K} (hf : f ∈ path.edgeList) : e.IsApart f := by
  intro p hep
  by_contra hfp
  rw [Bool.not_eq_false] at hfp
  have hpath : path ≠ [] := by
    rintro rfl
    cases hf
  obtain ⟨b, hb⟩ := exists_box? hpath
  obtain ⟨c, hc⟩ := exists_box? (List.cons_ne_nil e.start [e.stop])
  have hboxes : areApart (Path.box? (path.map Position.finite)) e.finite.path.box? = false := by
    have hedge : e.finite.path.box? = (box? [e.start, e.stop]).map Box.finite :=
      Path.box?_finite [e.start, e.stop]
    rw [Path.box?_finite, hedge, hb, hc]
    exact areApart_eq_false (Path.holds_of_passes hb (List.any_eq_true.2 ⟨f, hf, hfp⟩))
      (Path.holds_of_passes hc (List.any_eq_true.2 ⟨e, List.mem_cons_self, hep⟩))
  have hmeets : (Path.edgeList (path.map Position.finite)).any (·.meets e.finite) = true := by
    rw [edgeList_finite, List.any_map]
    exact List.any_eq_true.2 ⟨f, hf, Edge.meets_of_passes hturn hfp hep⟩
  unfold meetsEdge at h
  rw [hboxes, hmeets] at h
  cases h

end Graticule
