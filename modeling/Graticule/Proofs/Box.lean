import Graticule.Box
import Graticule.Proofs.Scalar.Exact
import Mathlib.Order.Bounds.Basic

/-!
# Outermost and innermost sides

Scalars may be numbers of a linear order or none.  The sides of a hull are the outermost numbers that
some boxes have there, `Box.IsHull`, and those of an overlap the innermost, `Box.IsOverlap`: they do
not depend on the order, the repetition or the grouping of the boxes.

The boxes of grids in the pixel coordinates of a reference grid have whole sides, which are all
numbers.  `Box.cast` takes such a box to the boxes over an ordered field, where joining several of
them from left to right gives their hull and meeting them their overlap.
-/

namespace Graticule

/-! ## Extremes of lists -/

theorem isLeast_foldl_min {α : Type} [LinearOrder α] (x : α) (xs : List α) :
    IsLeast {y | y ∈ x :: xs} (xs.foldl min x) := by
  induction xs generalizing x with
  | nil => simp [IsLeast]
  | cons y ys ih =>
    obtain ⟨hmem, hle⟩ := ih (min x y)
    simp only [mem_lowerBounds, Set.mem_ofPred_eq, List.mem_cons] at hmem hle
    refine ⟨?_, ?_⟩
    · simp only [Set.mem_ofPred_eq, List.mem_cons, List.foldl_cons]
      rcases hmem with hmem | hmem
      · rw [hmem]
        rcases min_choice x y with hxy | hxy
        · exact Or.inl hxy
        · exact Or.inr (Or.inl hxy)
      · exact Or.inr (Or.inr hmem)
    · simp only [mem_lowerBounds, Set.mem_ofPred_eq, List.mem_cons, List.foldl_cons]
      have hmin := hle _ (Or.inl rfl)
      rintro z (rfl | rfl | hz)
      · exact hmin.trans (min_le_left _ _)
      · exact hmin.trans (min_le_right _ _)
      · exact hle _ (Or.inr hz)

theorem isGreatest_foldl_max {α : Type} [LinearOrder α] (x : α) (xs : List α) :
    IsGreatest {y | y ∈ x :: xs} (xs.foldl max x) :=
  isLeast_foldl_min (α := αᵒᵈ) x xs

namespace Box

/-- The point lies between the sides or on them. -/
structure Holds {K : Type} [LinearOrder K] (b : Box K) (p : Position K) : Prop where
  left : b.left ≤ p.x
  right : p.x ≤ b.right
  bottom : b.bottom ≤ p.y
  top : p.y ≤ b.top

def turned {α : Type} (b : Box α) : Box α := ⟨b.right, b.top, b.left, b.bottom⟩

theorem turned_turned {α : Type} (b : Box α) : b.turned.turned = b := rfl

/-- Meeting boxes is joining them with opposite sides exchanged. -/
theorem foldl_meet_eq_turned {α : Type} [Scalar α] (b : Box α) (boxes : List (Box α)) :
    boxes.foldl meet b = ((boxes.map turned).foldl join b.turned).turned := by
  induction boxes generalizing b with
  | nil => rfl
  | cons c cs ih =>
    rw [List.foldl_cons, ih]
    rfl

section

variable {β L : Type} [LinearOrder L]

/-- The numbers at a side of some boxes; `read` gives the number that a scalar is, if it is one. -/
def numbersAt (read : β → Option L) (side : Box β → β) (boxes : List (Box β)) : Set L :=
  {v | ∃ c ∈ boxes, read (side c) = some v}

/-- The left and the lower side of `b` are the least of the numbers that the boxes have there, and
the right and the upper side the greatest. -/
structure IsHull (read : β → Option L) (boxes : List (Box β)) (b : Box L) : Prop where
  left : IsLeast (numbersAt read (·.left) boxes) b.left
  bottom : IsLeast (numbersAt read (·.bottom) boxes) b.bottom
  right : IsGreatest (numbersAt read (·.right) boxes) b.right
  top : IsGreatest (numbersAt read (·.top) boxes) b.top

/-- The left and the lower side of `b` are the greatest of the numbers that the boxes have there, and
the right and the upper side the least. -/
structure IsOverlap (read : β → Option L) (boxes : List (Box β)) (b : Box L) : Prop where
  left : IsGreatest (numbersAt read (·.left) boxes) b.left
  bottom : IsGreatest (numbersAt read (·.bottom) boxes) b.bottom
  right : IsLeast (numbersAt read (·.right) boxes) b.right
  top : IsLeast (numbersAt read (·.top) boxes) b.top

/-! ### Numbers at a side -/

section

variable (read : β → Option L) (side : Box β → β)

omit [LinearOrder L] in
theorem numbersAt_cons {b : Box β} {v : L} (hv : read (side b) = some v) (boxes : List (Box β)) :
    numbersAt read side (b :: boxes) = insert v (numbersAt read side boxes) := by
  ext w
  simp [numbersAt, hv, eq_comm]

omit [LinearOrder L] in
theorem numbersAt_eq_of_mem_iff {xs ys : List (Box β)} (h : ∀ x, x ∈ xs ↔ x ∈ ys) :
    numbersAt read side xs = numbersAt read side ys := by
  unfold numbersAt
  simp only [h]

omit [LinearOrder L] in
theorem numbersAt_append (xs ys : List (Box β)) :
    numbersAt read side (xs ++ ys) = numbersAt read side xs ∪ numbersAt read side ys := by
  ext v
  simp only [numbersAt, List.mem_append, Set.mem_ofPred_eq, Set.mem_union, or_and_right,
    exists_or]

omit [LinearOrder L] in
theorem numbersAt_map {γ : Type} (f : γ → Box β) (xs : List γ) :
    numbersAt read side (xs.map f) = {v | ∃ c ∈ xs, read (side (f c)) = some v} := by
  unfold numbersAt
  simp only [List.mem_map, exists_exists_and_eq_and]

end

/-! ### The sides do not depend on order, repetition or grouping -/

variable {read : β → Option L} {xs ys : List (Box β)} {b c : Box L}

/-- What holds of hulls holds of overlaps with the sides exchanged. -/
theorem isOverlap_iff_turned : IsOverlap read xs b ↔ IsHull read (xs.map turned) b.turned := by
  constructor
  · intro hb
    constructor <;> rw [numbersAt_map]
    exacts [hb.right, hb.top, hb.left, hb.bottom]
  · intro hb
    obtain ⟨hright, htop, hleft, hbottom⟩ := hb
    rw [numbersAt_map] at hright htop hleft hbottom
    exact ⟨hleft, hbottom, hright, htop⟩

/-- Boxes that are the same up to order and repetition have the same hull. -/
theorem IsHull.eq_of_mem_iff (hb : IsHull read xs b) (hc : IsHull read ys c)
    (h : ∀ x, x ∈ xs ↔ x ∈ ys) : b = c := by
  have hnumbers (side : Box β → β) := numbersAt_eq_of_mem_iff read side h
  have hleft := hb.left.unique (hnumbers _ ▸ hc.left)
  have hbottom := hb.bottom.unique (hnumbers _ ▸ hc.bottom)
  have hright := hb.right.unique (hnumbers _ ▸ hc.right)
  have htop := hb.top.unique (hnumbers _ ▸ hc.top)
  cases b
  cases c
  simp_all

theorem IsOverlap.eq_of_mem_iff (hb : IsOverlap read xs b) (hc : IsOverlap read ys c)
    (h : ∀ x, x ∈ xs ↔ x ∈ ys) : b = c := by
  have hturned := (isOverlap_iff_turned.1 hb).eq_of_mem_iff (isOverlap_iff_turned.1 hc) (by simp [h])
  exact congrArg turned hturned

theorem IsHull.append (hb : IsHull read xs b) (hc : IsHull read ys c) :
    IsHull read (xs ++ ys)
      ⟨min b.left c.left, min b.bottom c.bottom, max b.right c.right, max b.top c.top⟩ := by
  constructor <;> rw [numbersAt_append]
  exacts [hb.left.union hc.left, hb.bottom.union hc.bottom, hb.right.union hc.right,
    hb.top.union hc.top]

theorem IsOverlap.append (hb : IsOverlap read xs b) (hc : IsOverlap read ys c) :
    IsOverlap read (xs ++ ys)
      ⟨max b.left c.left, max b.bottom c.bottom, min b.right c.right, min b.top c.top⟩ := by
  rw [isOverlap_iff_turned, List.map_append]
  exact (isOverlap_iff_turned.1 hb).append (isOverlap_iff_turned.1 hc)

end

/-! ### Whole sides -/

variable {boxes : List (Box ℤ)}

theorem numbersAt_some (side : Box ℤ → ℤ) (boxes : List (Box ℤ)) :
    numbersAt some side boxes = {x | x ∈ boxes.map side} := by
  ext x
  simp [numbersAt]

theorem mem_numbersAt_some {side : Box ℤ → ℤ} {x : ℤ} :
    x ∈ numbersAt some side boxes ↔ ∃ c ∈ boxes, side c = x := by
  simp [numbersAt]

/-- The box, with an inverted side moved to the lower left one. -/
def clamp (b : Box ℤ) : Box ℤ := ⟨b.left, b.bottom, max b.left b.right, max b.bottom b.top⟩

theorem IsHull.bounds {b c : Box ℤ} (hb : IsHull some boxes b) (hc : c ∈ boxes) :
    b.left ≤ c.left ∧ b.bottom ≤ c.bottom ∧ c.right ≤ b.right ∧ c.top ≤ b.top :=
  ⟨hb.left.2 ⟨c, hc, rfl⟩, hb.bottom.2 ⟨c, hc, rfl⟩, hb.right.2 ⟨c, hc, rfl⟩,
    hb.top.2 ⟨c, hc, rfl⟩⟩

/-- A hull stays within the bounds that all the boxes keep. -/
theorem IsHull.within {b outer : Box ℤ} (hb : IsHull some boxes b)
    (h : ∀ c ∈ boxes, outer.left ≤ c.left ∧ outer.bottom ≤ c.bottom ∧ c.right ≤ outer.right ∧
      c.top ≤ outer.top) :
    outer.left ≤ b.left ∧ outer.bottom ≤ b.bottom ∧ b.right ≤ outer.right ∧
      b.top ≤ outer.top := by
  obtain ⟨left, hleft, hleft'⟩ := mem_numbersAt_some.1 hb.left.1
  obtain ⟨bottom, hbottom, hbottom'⟩ := mem_numbersAt_some.1 hb.bottom.1
  obtain ⟨right, hright, hright'⟩ := mem_numbersAt_some.1 hb.right.1
  obtain ⟨top, htop, htop'⟩ := mem_numbersAt_some.1 hb.top.1
  refine ⟨?_, ?_, ?_, ?_⟩
  · rw [← hleft']
    exact (h left hleft).1
  · rw [← hbottom']
    exact (h bottom hbottom).2.1
  · rw [← hright']
    exact (h right hright).2.2.1
  · rw [← htop']
    exact (h top htop).2.2.2

theorem IsOverlap.bounds {b c : Box ℤ} (hb : IsOverlap some boxes b) (hc : c ∈ boxes) :
    c.left ≤ b.left ∧ c.bottom ≤ b.bottom ∧ b.right ≤ c.right ∧ b.top ≤ c.top :=
  ⟨hb.left.2 ⟨c, hc, rfl⟩, hb.bottom.2 ⟨c, hc, rfl⟩, hb.right.2 ⟨c, hc, rfl⟩,
    hb.top.2 ⟨c, hc, rfl⟩⟩

theorem isHull_singleton (b : Box ℤ) : IsHull some [b] b := by
  constructor <;> simp [numbersAt, IsLeast, IsGreatest]

theorem isOverlap_singleton (b : Box ℤ) : IsOverlap some [b] b :=
  isOverlap_iff_turned.2 (isHull_singleton _)

/-! ### Boxes moved by whole numbers -/

def moved (b : Box ℤ) (columns rows : ℤ) : Box ℤ :=
  ⟨b.left + columns, b.bottom + rows, b.right + columns, b.top + rows⟩

theorem moved_neg_moved (b : Box ℤ) (columns rows : ℤ) :
    (b.moved (-columns) (-rows)).moved columns rows = b := by
  simp [moved]

theorem clamp_moved (b : Box ℤ) (columns rows : ℤ) :
    (b.moved columns rows).clamp = b.clamp.moved columns rows := by
  simp only [clamp, moved, max_add_add_right]

theorem IsHull.moved {b : Box ℤ} (hb : IsHull some boxes b) (columns rows : ℤ) :
    IsHull some (boxes.map (·.moved columns rows)) (b.moved columns rows) := by
  have hshift (side : Box ℤ → ℤ) (n : ℤ) (h : ∀ c, side (c.moved columns rows) = side c + n) :
      numbersAt some side (boxes.map (·.moved columns rows)) =
        (· + n) '' numbersAt some side boxes := by
    ext x
    simp only [mem_numbersAt_some, List.mem_map, exists_exists_and_eq_and, h, Set.mem_image]
  have hmono (n : ℤ) : Monotone (· + n) := fun _ _ hle => Int.add_le_add_right hle n
  constructor
  · rw [hshift _ columns fun _ => rfl]
    exact (hmono columns).map_isLeast hb.left
  · rw [hshift _ rows fun _ => rfl]
    exact (hmono rows).map_isLeast hb.bottom
  · rw [hshift _ columns fun _ => rfl]
    exact (hmono columns).map_isGreatest hb.right
  · rw [hshift _ rows fun _ => rfl]
    exact (hmono rows).map_isGreatest hb.top

theorem IsOverlap.moved {b : Box ℤ} (hb : IsOverlap some boxes b) (columns rows : ℤ) :
    IsOverlap some (boxes.map (·.moved columns rows)) (b.moved columns rows) := by
  have hturned := (isOverlap_iff_turned.1 hb).moved columns rows
  rw [List.map_map] at hturned
  rw [isOverlap_iff_turned, List.map_map]
  exact hturned

open scoped Exact

variable {K : Type} [Field K] [LinearOrder K] [IsStrictOrderedRing K] [FloorRing K]

def cast (b : Box ℤ) : Box K := ⟨b.left, b.bottom, b.right, b.top⟩

theorem join_cast (b c : Box ℤ) :
    (join b.cast c.cast : Box K) =
      cast ⟨min b.left c.left, min b.bottom c.bottom, max b.right c.right, max b.top c.top⟩ := by
  simp only [join, cast, Exact.least_eq, Exact.greatest_eq, Int.cast_min, Int.cast_max]

theorem exists_foldl_join (b : Box ℤ) (bs : List (Box ℤ)) :
    ∃ c : Box ℤ, (bs.map cast).foldl join (b.cast : Box K) = c.cast ∧
      IsHull some (b :: bs) c := by
  have hfold : (bs.map cast).foldl join (b.cast : Box K) =
      cast ⟨(bs.map (·.left)).foldl min b.left, (bs.map (·.bottom)).foldl min b.bottom,
        (bs.map (·.right)).foldl max b.right, (bs.map (·.top)).foldl max b.top⟩ := by
    induction bs generalizing b with
    | nil => rfl
    | cons c cs ih =>
      rw [List.map_cons, List.foldl_cons, join_cast, ih]
      rfl
  refine ⟨_, hfold, ?_⟩
  constructor <;> rw [numbersAt_some]
  exacts [isLeast_foldl_min _ _, isLeast_foldl_min _ _, isGreatest_foldl_max _ _,
    isGreatest_foldl_max _ _]

theorem exists_foldl_meet (b : Box ℤ) (bs : List (Box ℤ)) :
    ∃ c : Box ℤ, (bs.map cast).foldl meet (b.cast : Box K) = c.cast ∧
      IsOverlap some (b :: bs) c := by
  obtain ⟨c, hfold, hc⟩ := exists_foldl_join (K := K) b.turned (bs.map turned)
  refine ⟨c.turned, ?_, isOverlap_iff_turned.2 hc⟩
  rw [List.map_map] at hfold
  rw [foldl_meet_eq_turned, List.map_map]
  exact congrArg turned hfold

end Box

end Graticule
