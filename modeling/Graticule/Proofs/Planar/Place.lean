import Graticule.Proofs.Box
import Graticule.Proofs.Planar.Winding

/-!
# Places of points over exact scalars

Where turns are exact, a point on one of the edges of a closed ring is found on its boundary, and of
any other point the winding number decides: `Path.placeOf_of_passes`, `Path.placeOf_of_not_passes`.
So a segment without a point on the ring stays on one side of it, and what is not outside lies among
the vertices.
-/

namespace Graticule

open scoped Exact

variable {K : Type} [Field K] [LinearOrder K]

/-! ## Turns -/

/-- The turn whose triangle has a signed area. -/
def Turn.ofArea (area : K) : Turn :=
  if 0 < area then .left else if area < 0 then .right else .straight

theorem Turn.ofArea_of_pos {area : K} (h : 0 < area) : ofArea area = .left := if_pos h

theorem Turn.ofArea_of_neg {area : K} (h : area < 0) : ofArea area = .right := by
  unfold ofArea
  rw [if_neg h.not_gt, if_pos h]

theorem Turn.ofArea_zero : ofArea (0 : K) = .straight := by
  unfold ofArea
  rw [if_neg (lt_irrefl _), if_neg (lt_irrefl _)]

instance Turn.lawfulBEq : LawfulBEq Turn where
  eq_of_beq {a b} h := by cases a <;> cases b <;> first | rfl | cases h
  rfl {a} := by cases a <;> rfl

theorem Turn.ofArea_beq_straight (area : K) : (ofArea area == .straight) = decide (area = 0) := by
  rcases lt_trichotomy area 0 with h | rfl | h
  · simp [ofArea_of_neg h, h.ne]
  · simp [ofArea_zero]
  · simp [ofArea_of_pos h, h.ne']

/-- The turns between finite points are those of the signed areas. -/
def Planar.TurnsExactly (K : Type) [Field K] [LinearOrder K] [FloorRing K]
    [Planar (Extended K)] : Prop :=
  ∀ p q r : Position K, Planar.turn p.finite q.finite r.finite =
    Turn.ofArea ((q.minus p).cross (r.minus p))

variable [FloorRing K]

theorem Scalar.isBetween_finite (v a b : K) :
    Scalar.isBetween (.finite v) (.finite a) (.finite b : Extended K) = Scalar.isBetween v a b := by
  unfold Scalar.isBetween
  simp only [Extended.finite_lt, Extended.finite_le]

theorem Position.isBetween_finite (p a b : Position K) :
    p.finite.isBetween a.finite b.finite = p.isBetween a b := by
  unfold Position.isBetween
  exact congrArg₂ _ (Scalar.isBetween_finite ..) (Scalar.isBetween_finite ..)

namespace Edge

theorem side_eq_mul {e : Edge K} (he : e.start.y ≠ e.stop.y) (p : Position K) :
    e.side p = (e.stop.y - e.start.y) * (e.abscissa p.y - p.x) := by
  have hne : e.stop.y - e.start.y ≠ 0 := sub_ne_zero.2 he.symm
  rw [side_eq]
  unfold abscissa
  field_simp
  ring

theorem winding_of_iff {e : Edge K} {p : Position K} (h : e.start.y ≤ p.y ↔ e.stop.y ≤ p.y) :
    e.winding p = 0 := by
  have hreached : reached e.start.y p.y = reached e.stop.y p.y := if_congr h rfl rfl
  unfold winding
  rw [hreached, sub_self, ite_self]

theorem passes_eq (e : Edge K) (p : Position K) :
    e.passes p = (decide (e.side p = 0) && p.isBetween e.start e.stop) := by
  unfold passes
  refine congrArg (· && _) ?_
  change decide (_ = ((0 : ℕ) : K)) = _
  rw [Nat.cast_zero]
  rfl

variable [IsStrictOrderedRing K]

theorem side_pos_iff {e : Edge K} (he : e.start.y < e.stop.y) (p : Position K) :
    0 < e.side p ↔ p.x < e.abscissa p.y := by
  rw [side_eq_mul he.ne, mul_pos_iff_of_pos_left (sub_pos.2 he), sub_pos]

theorem side_neg_iff {e : Edge K} (he : e.stop.y < e.start.y) (p : Position K) :
    e.side p < 0 ↔ p.x < e.abscissa p.y := by
  rw [side_eq_mul he.ne', ← neg_pos, ← neg_mul, mul_pos_iff_of_pos_left (by linarith), sub_pos]

theorem winding_of_rising {e : Edge K} {p : Position K} (hlower : e.start.y ≤ p.y)
    (hupper : p.y ≤ e.stop.y) :
    e.winding p = if 0 < e.side p ∧ e.stop.y ≠ p.y then 1 else 0 := by
  have hstart : reached e.start.y p.y = 1 := if_pos hlower
  unfold winding
  rw [hstart]
  rcases hupper.lt_or_eq with hlt | heq
  · have hstop : reached e.stop.y p.y = 0 := if_neg hlt.not_ge
    rw [hstop, sub_zero]
    refine if_congr ?_ rfl rfl
    rw [side_pos_iff (hlower.trans_lt hlt), and_iff_left hlt.ne']
  · have hstop : reached e.stop.y p.y = 1 := if_pos heq.ge
    rw [hstop, sub_self, ite_self, if_neg fun h => h.2 heq.symm]

theorem winding_of_falling {e : Edge K} {p : Position K} (hupper : p.y < e.start.y)
    (hlower : e.stop.y ≤ p.y) : e.winding p = if e.side p < 0 then -1 else 0 := by
  have hstart : reached e.start.y p.y = 0 := if_neg hupper.not_ge
  have hstop : reached e.stop.y p.y = 1 := if_pos hlower
  unfold winding
  rw [hstart, hstop, zero_sub]
  exact if_congr (side_neg_iff (hlower.trans_lt hupper) p).symm rfl rfl

end Edge

namespace Path

section

variable {α : Type}

theorem mem_of_mem_edgeList {path : Path α} {e : Edge α} (he : e ∈ path.edgeList) :
    e.start ∈ path ∧ e.stop ∈ path := by
  obtain ⟨⟨p, q⟩, hmem, rfl⟩ := List.mem_map.1 he
  obtain ⟨hp, hq⟩ := List.of_mem_zip hmem
  exact ⟨hp, List.mem_of_mem_tail hq⟩

theorem exists_stop_eq_start {path : Path α} {first : Position α} (hfirst : path.head? = some first)
    {e : Edge α} (he : e ∈ path.edgeList) :
    e.start = first ∨ ∃ f ∈ path.edgeList, f.stop = e.start := by
  induction path generalizing first with
  | nil => cases hfirst
  | cons a path ih =>
    cases hfirst
    cases path with
    | nil => cases he
    | cons b path =>
      rw [edgeList_cons_cons] at he ⊢
      rcases List.mem_cons.1 he with rfl | he
      · exact Or.inl rfl
      · obtain heq | ⟨f, hf, heq⟩ := ih rfl he
        · exact Or.inr ⟨⟨a, b⟩, List.mem_cons_self, heq.symm⟩
        · exact Or.inr ⟨f, List.mem_cons_of_mem _ hf, heq⟩

theorem exists_stop_eq_last {path : Path α} (hpath : path.edgeList ≠ []) {last : Position α}
    (hlast : path.getLast? = some last) : ∃ f ∈ path.edgeList, f.stop = last := by
  induction path with
  | nil => cases hlast
  | cons a path ih =>
    cases path with
    | nil => exact absurd rfl hpath
    | cons b path =>
      rw [edgeList_cons_cons]
      cases path with
      | nil => exact ⟨_, List.mem_cons_self, Option.some.inj hlast⟩
      | cons c path =>
        obtain ⟨f, hf, heq⟩ := ih (List.cons_ne_nil _ _) hlast
        exact ⟨f, List.mem_cons_of_mem _ hf, heq⟩

end

omit [Field K] [FloorRing K] in
/-- Every edge of a closed ring starts where another stops. -/
theorem exists_edge_before {ring : Path K} (hring : ring.isClosed = true) {e : Edge K}
    (he : e ∈ ring.edgeList) : ∃ f ∈ ring.edgeList, f.stop = e.start := by
  cases ring with
  | nil => cases he
  | cons a ring =>
    obtain heq | hbefore := exists_stop_eq_start rfl he
    · rw [heq]
      exact exists_stop_eq_last (List.ne_nil_of_mem he) (head?_eq_getLast? hring).symm
    · exact hbefore

theorem placeOf_finite [Planar (Extended K)] {ring : Path K} (hring : ring.length ≠ 1)
    (p : Position K) :
    placeOf (ring.map Position.finite) p.finite =
      match windingNumber? p.finite 0 (ring.edgeList.map Edge.finite) with
      | none => .boundary
      | some w => if w == 0 then .exterior else .interior := by
  rw [← edgeList_finite]
  match ring with
  | [] => rfl
  | [_] => exact absurd rfl hring
  | _ :: _ :: _ => rfl

end Path

section

variable [Planar (Extended K)] (hturn : Planar.TurnsExactly K)

include hturn

theorem Edge.turnTo_finite (e : Edge K) (p : Position K) :
    e.finite.turnTo p.finite = Turn.ofArea (e.side p) := hturn e.start e.stop p

theorem Edge.covers_finite (e : Edge K) (p : Position K) :
    e.finite.covers p.finite = e.passes p := by
  unfold covers
  rw [turnTo_finite hturn, Turn.ofArea_beq_straight, passes_eq]
  exact congrArg _ (Position.isBetween_finite ..)

variable [IsStrictOrderedRing K]

namespace Path

/-- One edge is added to the winding number, unless the point is found on the edge; a point at the
upper end of a falling edge is left to the edge before. -/
theorem windingNumber?_cons (e : Edge K) (es : List (Edge (Extended K))) (p : Position K) (w : ℤ) :
    windingNumber? p.finite w (e.finite :: es) =
      if e.passes p = true ∧ (e.start.y ≤ p.y → p.y ≤ e.stop.y) then none
      else windingNumber? p.finite (w + e.winding p) es := by
  have hlower : (e.finite.start.y ≤ p.finite.y) ↔ e.start.y ≤ p.y := Extended.finite_le ..
  have hupper : (p.finite.y ≤ e.finite.stop.y) ↔ p.y ≤ e.stop.y := Extended.finite_le ..
  have hstop : (e.finite.stop.y ≤ p.finite.y) ↔ e.stop.y ≤ p.y := Extended.finite_le ..
  have hend : (e.finite.stop.y != p.finite.y) = !decide (e.stop.y = p.y) := rfl
  have hx : Scalar.isBetween p.finite.x e.finite.start.x e.finite.stop.x =
      Scalar.isBetween p.x e.start.x e.stop.x := Scalar.isBetween_finite ..
  have hbetween (hy : Scalar.isBetween p.y e.start.y e.stop.y = true) :
      e.passes p = (Turn.ofArea (e.side p) == .straight &&
        Scalar.isBetween p.x e.start.x e.stop.x) := by
    rw [Edge.passes_eq, Position.isBetween, hy, Bool.and_true, Turn.ofArea_beq_straight]
  rw [windingNumber?]
  simp only [hlower, hupper, hstop, hend, hx, Edge.turnTo_finite hturn]
  -- by the heights of the ends, as the scan does, and then by the side of the point
  by_cases hstart : e.start.y ≤ p.y
  · rw [if_pos hstart]
    by_cases hle : p.y ≤ e.stop.y
    · have hy : Scalar.isBetween p.y e.start.y e.stop.y = true :=
        (Scalar.isBetween_iff ..).2 ⟨(min_le_left _ _).trans hstart, hle.trans (le_max_right _ _)⟩
      rw [if_pos hle, hbetween hy, Edge.winding_of_rising hstart hle]
      rcases lt_trichotomy (e.side p) 0 with hneg | hzero | hpos
      · simp [Turn.ofArea_of_neg hneg, hneg.not_gt]
      · simp [hzero, Turn.ofArea_zero, hle]
      · by_cases heq : e.stop.y = p.y <;> simp [Turn.ofArea_of_pos hpos, hpos, heq]
    · have hiff : e.start.y ≤ p.y ↔ e.stop.y ≤ p.y := iff_of_true hstart (not_le.1 hle).le
      rw [if_neg hle, if_neg fun h => hle (h.2 hstart), Edge.winding_of_iff hiff, add_zero]
  · rw [if_neg hstart]
    by_cases hle : e.stop.y ≤ p.y
    · have hy : Scalar.isBetween p.y e.start.y e.stop.y = true :=
        (Scalar.isBetween_iff ..).2
          ⟨(min_le_right _ _).trans hle, (not_le.1 hstart).le.trans (le_max_left _ _)⟩
      rw [if_pos hle, hbetween hy, Edge.winding_of_falling (not_le.1 hstart) hle]
      rcases lt_trichotomy (e.side p) 0 with hneg | hzero | hpos
      · simp [Turn.ofArea_of_neg hneg, hneg, sub_eq_add_neg]
      · simp [hzero, Turn.ofArea_zero, hstart]
      · simp [Turn.ofArea_of_pos hpos, hpos.not_gt]
    · have hy : e.passes p = false := by
        rw [← Bool.not_eq_true, Edge.passes_iff]
        rintro ⟨-, -, hmin, -⟩
        exact (min_le_iff.1 hmin).elim hstart hle
      rw [if_neg hle, hy, Edge.winding_of_iff (iff_of_false hstart hle), add_zero]
      simp

theorem windingNumber?_of_not_passes {es : List (Edge K)} {p : Position K}
    (h : ∀ e ∈ es, e.passes p = false) (w : ℤ) :
    windingNumber? p.finite w (es.map Edge.finite) = some (w + (es.map (·.winding p)).sum) := by
  induction es generalizing w with
  | nil => exact congrArg some (add_zero w).symm
  | cons e es ih =>
    have hedge : ¬ (e.passes p = true ∧ (e.start.y ≤ p.y → p.y ≤ e.stop.y)) := fun hpasses =>
      Bool.false_ne_true ((h e List.mem_cons_self).symm.trans hpasses.1)
    rw [List.map_cons, windingNumber?_cons hturn, if_neg hedge,
      ih fun f hf => h f (List.mem_cons_of_mem e hf), List.map_cons, List.sum_cons, add_assoc]

theorem windingNumber?_of_mem {es : List (Edge K)} {e : Edge K} (he : e ∈ es) {p : Position K}
    (hpasses : e.passes p = true) (hfound : e.start.y ≤ p.y → p.y ≤ e.stop.y) (w : ℤ) :
    windingNumber? p.finite w (es.map Edge.finite) = none := by
  induction es generalizing w with
  | nil => cases he
  | cons f es ih =>
    rw [List.map_cons, windingNumber?_cons hturn]
    rcases List.mem_cons.1 he with rfl | he
    · exact if_pos ⟨hpasses, hfound⟩
    · rw [ih he, ite_self]

/-- A point on a closed ring is found on one of its edges: if it is at the upper end of a falling
edge, on the edge before. -/
theorem windingNumber?_of_passes {ring : Path K} (hring : ring.isClosed = true) {p : Position K}
    (h : ring.passes p = true) (w : ℤ) :
    windingNumber? p.finite w (ring.edgeList.map Edge.finite) = none := by
  obtain ⟨e, he, hpasses⟩ := List.any_eq_true.1 h
  by_cases hfound : e.start.y ≤ p.y → p.y ≤ e.stop.y
  · exact windingNumber?_of_mem hturn he hpasses hfound w
  · obtain ⟨hstart, hstop⟩ := Classical.not_imp.1 hfound
    obtain ⟨-, -, -, hmax⟩ := (Edge.passes_iff e p).1 hpasses
    have hy : e.start.y = p.y :=
      le_antisymm hstart ((le_max_iff.1 hmax).resolve_right hstop)
    have hne : e.start.y ≠ e.stop.y := fun heq => hstop (hy.symm.trans heq).le
    have hx : e.start.x = p.x := by
      rw [← Edge.abscissa_start hne, hy, Edge.abscissa_of_passes hne hpasses]
    obtain ⟨f, hf, heq⟩ := exists_edge_before hring he
    have hp : f.stop = p := by
      rw [heq, Position.mk.injEq]
      exact ⟨hx, hy⟩
    exact windingNumber?_of_mem hturn hf (hp ▸ f.passes_stop) (fun _ => hp ▸ le_rfl) w

/-- The place of a point on no edge of a ring is decided by how often the ring winds around it. -/
theorem placeOf_of_not_passes {ring : Path K} (hring : ring.length ≠ 1) {p : Position K}
    (h : ring.passes p = false) :
    placeOf (ring.map Position.finite) p.finite =
      if ring.windingSum p = 0 then .exterior else .interior := by
  have hedges : ∀ e ∈ ring.edgeList, e.passes p = false := fun e he =>
    Bool.eq_false_of_not_eq_true fun hpasses =>
      Bool.false_ne_true (h.symm.trans (List.any_eq_true.2 ⟨e, he, hpasses⟩))
  rw [placeOf_finite hring, windingNumber?_of_not_passes hturn hedges, zero_add]
  exact if_congr beq_iff_eq rfl rfl

theorem placeOf_of_passes {ring : Path K} (hring : ring.isClosed = true) {p : Position K}
    (h : ring.passes p = true) : placeOf (ring.map Position.finite) p.finite = .boundary := by
  have hlength : ring.length ≠ 1 := by
    intro hone
    obtain ⟨a, rfl⟩ := List.length_eq_one_iff.1 hone
    cases h
  rw [placeOf_finite hlength, windingNumber?_of_passes hturn hring h]

/-- A segment without a point on a closed ring stays on one side of it. -/
theorem placeOf_eq_of_isApart {ring : Path K} (hring : ring.isClosed = true)
    (hlength : ring.length ≠ 1) {s : Edge K} (h : ∀ e ∈ ring.edgeList, s.IsApart e) :
    placeOf (ring.map Position.finite) s.stop.finite =
      placeOf (ring.map Position.finite) s.start.finite := by
  have hpasses {p : Position K} (hp : s.passes p = true) : ring.passes p = false :=
    List.any_eq_false.2 fun e he => Bool.not_eq_true _ ▸ h e he p hp
  rw [placeOf_of_not_passes hturn hlength (hpasses s.passes_stop),
    placeOf_of_not_passes hturn hlength (hpasses s.passes_start),
    windingSum_eq_of_isApart hring h]

end Path

end

/-! ## Boxes around rings -/

variable [IsStrictOrderedRing K]

namespace Edge

theorem abscissa_mem {e : Edge K} {y : K} (hy : y ∈ Set.uIcc e.start.y e.stop.y) :
    e.abscissa y ∈ Set.uIcc e.start.x e.stop.x := by
  by_cases he : e.start.y = e.stop.y
  · have habscissa : e.abscissa y = e.start.x := by
      unfold abscissa
      rw [he, sub_self, div_zero, zero_mul, add_zero]
    rw [habscissa]
    exact Set.left_mem_uIcc
  · exact ((passes_iff _ _).1 (passes_abscissa he hy)).2.1

omit [IsStrictOrderedRing K] in
theorem holds_of_passes {e : Edge K} {b : Box K} (hstart : b.Holds e.start) (hstop : b.Holds e.stop)
    {p : Position K} (hp : e.passes p = true) : b.Holds p := by
  obtain ⟨-, ⟨hleft, hright⟩, hbottom, htop⟩ := (passes_iff e p).1 hp
  exact ⟨(le_min hstart.left hstop.left).trans hleft, hright.trans (max_le hstart.right hstop.right),
    (le_min hstart.bottom hstop.bottom).trans hbottom, htop.trans (max_le hstart.top hstop.top)⟩

/-- A point left of both ends sees the edge for its heights alone. -/
theorem winding_of_left {e : Edge K} {p : Position K} (hstart : p.x < e.start.x)
    (hstop : p.x < e.stop.x) : e.winding p = reached e.start.y p.y - reached e.stop.y p.y := by
  rw [winding_eq_ite (P := True), if_pos trivial]
  exact fun hy => iff_true_intro ((lt_min hstart hstop).trans_le (abscissa_mem hy).1)

theorem winding_of_right {e : Edge K} {p : Position K} (hstart : e.start.x < p.x)
    (hstop : e.stop.x < p.x) : e.winding p = 0 := by
  rw [winding_eq_ite (P := False), if_neg not_false]
  exact fun hy => iff_false_intro ((abscissa_mem hy).2.trans_lt (max_lt hstart hstop)).not_gt

end Edge

namespace Path

/-- A closed ring inside a box does not wind around the points outside. -/
theorem windingSum_eq_zero {ring : Path K} (hring : ring.isClosed = true) {b : Box K}
    (hb : ∀ q ∈ ring, b.Holds q) {p : Position K} (hp : ¬ b.Holds p) : ring.windingSum p = 0 := by
  have hedges {f : Edge K → ℤ} (hf : ∀ e : Edge K, b.Holds e.start → b.Holds e.stop →
      e.winding p = f e) : ring.windingSum p = (ring.edgeList.map f).sum :=
    congrArg List.sum (List.map_congr_left fun e he =>
      hf e (hb _ (mem_of_mem_edgeList he).1) (hb _ (mem_of_mem_edgeList he).2))
  have hzero : (ring.edgeList.map fun _ => (0 : ℤ)).sum = 0 := by simp
  -- only to the left of the box does an edge contribute, and there what its ends have reached
  by_cases hleft : b.left ≤ p.x
  · refine (hedges (f := fun _ => 0) fun e hstart hstop => ?_).trans hzero
    by_cases hright : p.x ≤ b.right
    · refine Edge.winding_of_iff ?_
      by_cases hbottom : b.bottom ≤ p.y
      · have htop : b.top < p.y := not_le.1 fun htop => hp ⟨hleft, hright, hbottom, htop⟩
        exact iff_of_true (hstart.top.trans htop.le) (hstop.top.trans htop.le)
      · have hbottom : p.y < b.bottom := not_le.1 hbottom
        exact iff_of_false (hbottom.trans_le hstart.bottom).not_ge
          (hbottom.trans_le hstop.bottom).not_ge
    · have hright : b.right < p.x := not_le.1 hright
      exact Edge.winding_of_right (hstart.right.trans_lt hright) (hstop.right.trans_lt hright)
  · have hleft : p.x < b.left := not_le.1 hleft
    refine (hedges (f := fun e => Edge.reached e.start.y p.y - Edge.reached e.stop.y p.y)
      fun e hstart hstop => ?_).trans (sum_edgeList_sub_of_isClosed (Edge.reached ·.y p.y) hring)
    exact Edge.winding_of_left (hleft.trans_le hstart.left) (hleft.trans_le hstop.left)

/-- What is not outside a ring lies in every box that holds the vertices. -/
theorem holds_of_placeOf [Planar (Extended K)] (hturn : Planar.TurnsExactly K) {ring : Path K}
    (hring : ring.isClosed = true) (hlength : ring.length ≠ 1) {b : Box K}
    (hb : ∀ q ∈ ring, b.Holds q) {p : Position K}
    (hp : placeOf (ring.map Position.finite) p.finite ≠ .exterior) : b.Holds p := by
  by_contra hout
  cases hpasses : ring.passes p with
  | true =>
    obtain ⟨e, he, hedge⟩ := List.any_eq_true.1 hpasses
    obtain ⟨hstart, hstop⟩ := mem_of_mem_edgeList he
    exact hout (Edge.holds_of_passes (hb _ hstart) (hb _ hstop) hedge)
  | false =>
    rw [placeOf_of_not_passes hturn hlength hpasses, windingSum_eq_zero hring hb hout] at hp
    exact hp (if_pos rfl)

end Path

end Graticule
