import Graticule.Proofs.Grid.Frame

/-!
# Order and grouping of grids

Grids are united or intersected all at once, or two at a time in some grouping.  The first operand
is the reference at every step, and an intersection that came out inverted is clamped at every step
of a grouping but only once for a whole list.  `combined_any_order_any_grouping` says that neither
shows in the result: on one lattice it depends only on which grids there are.

What this needs of an operation is collected in `IsCombination`: in any frame it gives the grid of a
box, which is determined by the boxes of the operands.
-/

namespace Graticule.Grid

/-- A way to combine grids two at a time. -/
inductive Grouping (α : Type) [Scalar α] where
  | single (g : Grid α)
  | both (s t : Grouping α)

namespace Grouping

variable {α : Type} [Scalar α]

def grids : Grouping α → List (Grid α)
  | single g => [g]
  | both s t => s.grids ++ t.grids

def fold (op : Grid α → Grid α → Except (Error α) (Grid α)) :
    Grouping α → Except (Error α) (Grid α)
  | single g => .ok g
  | both s t => do op (← s.fold op) (← t.fold op)

end Grouping

open scoped Exact

variable {K : Type} [Field K] [LinearOrder K] [IsStrictOrderedRing K] [FloorRing K]

/-- In every frame the operation on a list of grids gives the grid of a box, which `R` determines
from the boxes of the list; `R` counts no box twice and may be applied to a part of the list
first. -/
structure IsCombination (all : List (Grid K) → Except (Error K) (Grid K))
    (R : List (Box ℤ) → Box ℤ → Prop) : Prop where
  occupies : ∀ {t : Affine K} {first : Grid K} {rest : List (Grid K)} {b : Box ℤ}
    {boxes : List (Box ℤ)}, t.inverse?.isSome = true → first.Occupies t b →
    List.Forall₂ (Occupies · t) rest boxes → (∀ g ∈ rest, (first.crs == g.crs) = true) →
    ∃ u c, all (first :: rest) = .ok u ∧ u.crs = first.crs ∧ u.Occupies t c ∧ R (b :: boxes) c
  eq_of_mem_iff : ∀ {xs ys : List (Box ℤ)} {b c : Box ℤ}, R xs b → R ys c →
    (∀ x, x ∈ xs ↔ x ∈ ys) → b = c
  singleton : ∀ {b : Box ℤ}, b.clamp = b → R [b] b
  append : ∀ {xs ys : List (Box ℤ)} {b c d : Box ℤ}, R xs b → R ys c → R [b, c] d →
    R (xs ++ ys) d

theorem isCombination_union : IsCombination (unionAll (α := K)) (Box.IsHull some) where
  occupies := unionAll_occupies
  eq_of_mem_iff := Box.IsHull.eq_of_mem_iff
  singleton _ := Box.isHull_singleton _
  append {xs ys b c d} hb hc hd := by
    have hpair := (Box.isHull_singleton b).append (Box.isHull_singleton c)
    rw [hd.eq_of_mem_iff hpair fun _ => Iff.rfl]
    exact hb.append hc

/-- The sides of `b` are the innermost sides of the boxes, clamped. -/
def IsClampedOverlap (boxes : List (Box ℤ)) (b : Box ℤ) : Prop :=
  ∃ c, Box.IsOverlap some boxes c ∧ c.clamp = b

/-- Boxes may be clamped before they are overlapped: where one was inverted, the overlap is empty on
that axis and starts at the same place. -/
theorem clamp_overlap_clamp (b c : Box ℤ) :
    Box.clamp ⟨max b.clamp.left c.clamp.left, max b.clamp.bottom c.clamp.bottom,
        min b.clamp.right c.clamp.right, min b.clamp.top c.clamp.top⟩ =
      Box.clamp ⟨max b.left c.left, max b.bottom c.bottom, min b.right c.right,
        min b.top c.top⟩ := by
  simp only [Box.clamp, Box.mk.injEq, true_and]
  omega

theorem isCombination_intersection :
    IsCombination (intersectionAll (α := K)) IsClampedOverlap where
  occupies ht hfirst hrest hcrs := by
    obtain ⟨i, c, hi, hcrs', hoccupies, hc⟩ := intersectionAll_occupies ht hfirst hrest hcrs
    exact ⟨i, _, hi, hcrs', hoccupies, c, hc, rfl⟩
  eq_of_mem_iff := by
    rintro xs ys _ _ ⟨b, hb, rfl⟩ ⟨c, hc, rfl⟩ hmem
    rw [hb.eq_of_mem_iff hc hmem]
  singleton {b} hb := ⟨b, Box.isOverlap_singleton b, hb⟩
  append := by
    rintro xs ys _ _ _ ⟨b, hb, rfl⟩ ⟨c, hc, rfl⟩ ⟨d, hd, rfl⟩
    have hpair := (Box.isOverlap_singleton b.clamp).append (Box.isOverlap_singleton c.clamp)
    rw [hd.eq_of_mem_iff hpair fun _ => Iff.rfl, clamp_overlap_clamp]
    exact ⟨_, hb.append hc, rfl⟩

/-- A grid is found; it has the system of one of the grids `xs` and occupies the box that `R`
determines from theirs. -/
def IsOutcome (R : List (Box ℤ) → Box ℤ → Prop) (t : Affine K) (box : Grid K → Box ℤ)
    (xs : List (Grid K)) (result : Except (Error K) (Grid K)) : Prop :=
  ∃ u c, result = .ok u ∧ (∃ g ∈ xs, u.crs = g.crs) ∧ u.Occupies t c ∧ R (xs.map box) c

namespace IsCombination

variable {all : List (Grid K) → Except (Error K) (Grid K)} {R : List (Box ℤ) → Box ℤ → Prop}
  {t : Affine K} {box : Grid K → Box ℤ}

omit [IsStrictOrderedRing K] in
/-- All at once. -/
theorem isOutcome_list (hall : IsCombination all R) (ht : t.inverse?.isSome = true)
    {grids : List (Grid K)} (hne : grids ≠ []) (hbox : ∀ g ∈ grids, g.Occupies t (box g))
    (hcrs : ∀ g ∈ grids, ∀ h ∈ grids, (g.crs == h.crs) = true) :
    IsOutcome R t box grids (all grids) := by
  obtain ⟨first, rest, rfl⟩ := List.exists_cons_of_ne_nil hne
  obtain ⟨hfirst, hrest⟩ := List.forall_mem_cons.1 hbox
  have hboxes : List.Forall₂ (Occupies · t) rest (rest.map box) := by
    rw [List.forall₂_map_right_iff, List.forall₂_same]
    exact hrest
  obtain ⟨u, c, hu, hucrs, hoccupies, hc⟩ := hall.occupies ht hfirst hboxes fun g hg =>
    hcrs first List.mem_cons_self g (List.mem_cons_of_mem first hg)
  exact ⟨u, c, hu, ⟨first, List.mem_cons_self, hucrs⟩, hoccupies, hc⟩

omit [IsStrictOrderedRing K] in
/-- Two at a time. -/
theorem isOutcome_grouping (hall : IsCombination all R) (ht : t.inverse?.isSome = true)
    {s : Grouping K} (hbox : ∀ g ∈ s.grids, g.Occupies t (box g))
    (hcrs : ∀ g ∈ s.grids, ∀ h ∈ s.grids, (g.crs == h.crs) = true) :
    IsOutcome R t box s.grids (s.fold fun g h => all [g, h]) := by
  induction s with
  | single g =>
    have hg := hbox g (List.mem_singleton_self g)
    exact ⟨g, box g, rfl, ⟨g, List.mem_singleton_self g, rfl⟩, hg, hall.singleton hg.clamp_eq⟩
  | both s s' ihs ihs' =>
    simp only [Grouping.grids, List.forall_mem_append] at hbox hcrs
    obtain ⟨u, b, hu, ⟨g, hg, hgcrs⟩, hub, hb⟩ := ihs hbox.1 fun g hg => (hcrs.1 g hg).1
    obtain ⟨v, c, hv, ⟨h, hh, hhcrs⟩, hvc, hc⟩ := ihs' hbox.2 fun g hg => (hcrs.2 g hg).2
    have hpair : (u.crs == v.crs) = true := by
      rw [hgcrs, hhcrs]
      exact (hcrs.1 g hg).2 h hh
    obtain ⟨w, d, hw, hwcrs, hwd, hd⟩ := hall.occupies ht hub (.cons hvc .nil)
      (List.forall_mem_singleton.2 hpair)
    refine ⟨w, d, ?_, ⟨g, List.mem_append_left _ hg, hwcrs.trans hgcrs⟩, hwd, ?_⟩
    · rw [Grouping.fold, hu, hv]
      exact hw
    · rw [Grouping.grids, List.map_append]
      exact hall.append hb hc hd

/-- The combination of grids on one lattice is found, and depends only on which grids there are. -/
theorem exists_unordered (hall : IsCombination all R) {grids : List (Grid K)} (hne : grids ≠ [])
    (hdet : ∀ g ∈ grids, Affine.negligible ≤ |g.affine.determinant|)
    (hlattice : ∀ g ∈ grids, ∀ h ∈ grids, g.OnLattice h) :
    ∃ u, all grids = .ok u ∧
      (∀ others : List (Grid K), (∀ g, g ∈ others ↔ g ∈ grids) →
        ∃ v, all others = .ok v ∧ (v == u) = true) ∧
      ∀ s : Grouping K, (∀ g, g ∈ s.grids ↔ g ∈ grids) →
        ∃ v, s.fold (fun g h => all [g, h]) = .ok v ∧ (v == u) = true := by
  -- the frame of any one of the grids will do
  obtain ⟨f, hf⟩ := List.exists_mem_of_ne_nil grids hne
  have hinverse := (Affine.inverse?_isSome_iff _).2 (hdet f hf)
  have hbox {others : List (Grid K)} (hmem : ∀ g, g ∈ others ↔ g ∈ grids) (g : Grid K)
      (hg : g ∈ others) : g.Occupies f.affine (f.windowIn g).sides :=
    (hlattice f hf g ((hmem g).1 hg)).occupies hinverse
  have hcrs {others : List (Grid K)} (hmem : ∀ g, g ∈ others ↔ g ∈ grids) (g : Grid K)
      (hg : g ∈ others) (h : Grid K) (hh : h ∈ others) : (g.crs == h.crs) = true :=
    (hlattice g ((hmem g).1 hg) h ((hmem h).1 hh)).1
  have hself (g : Grid K) : g ∈ grids ↔ g ∈ grids := Iff.rfl
  obtain ⟨u, b, hu, ⟨g, hg, hgcrs⟩, hub, hb⟩ :=
    hall.isOutcome_list hinverse hne (hbox hself) (hcrs hself)
  have hequal {others : List (Grid K)} {result : Except (Error K) (Grid K)}
      (hmem : ∀ g, g ∈ others ↔ g ∈ grids)
      (hresult : IsOutcome R f.affine (fun g => (f.windowIn g).sides) others result) :
      ∃ v, result = .ok v ∧ (v == u) = true := by
    obtain ⟨v, c, hv, ⟨h, hh, hhcrs⟩, hvc, hc⟩ := hresult
    obtain rfl : c = b := hall.eq_of_mem_iff hc hb fun x => by simp only [List.mem_map, hmem]
    refine ⟨v, hv, hvc.beq hub ?_⟩
    rw [hhcrs, hgcrs]
    exact (hlattice h ((hmem h).1 hh) g hg).1
  refine ⟨u, hu, ?_, ?_⟩
  · intro others hmem
    have hothers : others ≠ [] := List.ne_nil_of_mem ((hmem f).2 hf)
    exact hequal hmem (hall.isOutcome_list hinverse hothers (hbox hmem) (hcrs hmem))
  · intro s hmem
    exact hequal hmem (hall.isOutcome_grouping hinverse (hbox hmem) (hcrs hmem))

end IsCombination

/-- The union and the intersection of grids on one lattice are found.  Any list of the same grids, in
another order or with some of them repeated, has an equal union and an equal intersection, and so
has any way to combine the same grids two at a time. -/
theorem combined_any_order_any_grouping (grids : List (Grid K)) (hne : grids ≠ [])
    (hdet : ∀ g ∈ grids, Affine.negligible ≤ |g.affine.determinant|)
    (hlattice : ∀ g ∈ grids, ∀ h ∈ grids, g.OnLattice h) :
    ∃ u i, unionAll grids = .ok u ∧ intersectionAll grids = .ok i ∧
      (∀ others : List (Grid K), (∀ g, g ∈ others ↔ g ∈ grids) →
        (∃ v, unionAll others = .ok v ∧ (v == u) = true) ∧
          ∃ j, intersectionAll others = .ok j ∧ (j == i) = true) ∧
      ∀ s : Grouping K, (∀ g, g ∈ s.grids ↔ g ∈ grids) →
        (∃ v, s.fold union = .ok v ∧ (v == u) = true) ∧
          ∃ j, s.fold intersection = .ok j ∧ (j == i) = true := by
  obtain ⟨u, hu, hlist, hgrouping⟩ := isCombination_union.exists_unordered hne hdet hlattice
  obtain ⟨i, hi, hlist', hgrouping'⟩ :=
    isCombination_intersection.exists_unordered hne hdet hlattice
  exact ⟨u, i, hu, hi, fun others hmem => ⟨hlist others hmem, hlist' others hmem⟩,
    fun s hmem => ⟨hgrouping s hmem, hgrouping' s hmem⟩⟩

/-- The theorem at grids of which the first two are apart in both directions and the third has no
columns. -/
theorem combined_any_order_any_grouping_apart :
    let grids := [northUp 4 4 0 0, northUp 3 2 10 (-5), northUp 0 2 2 2]
    let reversed := [northUp 0 2 2 2, northUp 3 2 10 (-5), northUp 4 4 0 0, northUp 0 2 2 2]
    let grouping := Grouping.both (.single (northUp 3 2 10 (-5)))
      (.both (.single (northUp 0 2 2 2)) (.single (northUp 4 4 0 0)))
    grids ≠ [] ∧ (∀ g ∈ grids, Affine.negligible ≤ |g.affine.determinant|) ∧
      (∀ g ∈ grids, ∀ h ∈ grids, g.OnLattice h) ∧
      ∃ u i, unionAll grids = .ok u ∧ intersectionAll grids = .ok i ∧
        (∃ v, unionAll reversed = .ok v ∧ (v == u) = true) ∧
        (∃ j, intersectionAll reversed = .ok j ∧ (j == i) = true) ∧
        (∃ v, grouping.fold union = .ok v ∧ (v == u) = true) ∧
        ∃ j, grouping.fold intersection = .ok j ∧ (j == i) = true := by
  intro grids reversed grouping
  have hform : ∀ g ∈ grids, ∃ width height column row, g = northUp width height column row := by
    intro g hg
    simp only [grids, List.mem_cons, List.not_mem_nil, or_false] at hg
    rcases hg with rfl | rfl | rfl <;> exact ⟨_, _, _, _, rfl⟩
  have hdet : ∀ g ∈ grids, Affine.negligible ≤ |g.affine.determinant| := by
    intro g hg
    obtain ⟨_, _, _, _, rfl⟩ := hform g hg
    exact negligible_le_determinant_northUp _ _ _ _
  have hlattice : ∀ g ∈ grids, ∀ h ∈ grids, g.OnLattice h := by
    intro g hg h hh
    obtain ⟨_, _, _, _, rfl⟩ := hform g hg
    obtain ⟨_, _, _, _, rfl⟩ := hform h hh
    exact onLattice_northUp _ _ _ _ _ _ _ _
  have hne : grids ≠ [] := List.cons_ne_nil _ _
  obtain ⟨u, i, hu, hi, hlist, hgrouping⟩ :=
    combined_any_order_any_grouping grids hne hdet hlattice
  have hreversed (g : Grid ℚ) : g ∈ reversed ↔ g ∈ grids := by
    simp only [reversed, grids, List.mem_cons, List.not_mem_nil, or_false]
    tauto
  have hleaves (g : Grid ℚ) : g ∈ grouping.grids ↔ g ∈ grids := by
    simp only [grouping, Grouping.grids, grids, List.singleton_append, List.mem_cons,
      List.not_mem_nil, or_false]
    tauto
  obtain ⟨hunion, hintersection⟩ := hlist reversed hreversed
  obtain ⟨hunion', hintersection'⟩ := hgrouping grouping hleaves
  exact ⟨hne, hdet, hlattice, u, i, hu, hi, hunion, hintersection, hunion', hintersection'⟩

end Graticule.Grid
