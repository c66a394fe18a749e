import Graticule.Proofs.Box
import Graticule.Proofs.Scalar.Extended
import Mathlib.Data.Rat.Floor
import Mathlib.Order.WithBotTop

/-!
# Boxes around and inside collections

The sides of boxes may be infinite, and they need not be numbers.  The numbers among the extended
scalars are linearly ordered, and on them the lesser and the greater of two are the minimum and the
maximum; what is not a number is passed over.  So each side of a hull is the least or the greatest of
the numbers at that side, `Box.IsOutermost`, whatever the order and the grouping of the boxes.  An
overlap is a hull with opposite sides exchanged, `overlap_eq_turned`.
-/

namespace Graticule

variable {K : Type}

/-! ## Numbers among the extended scalars -/

namespace Extended

/-- A scalar of the field or one of the two infinities. -/
def number : WithBotTop K → Extended K
  | ⊥ => infinite true
  | (x : K) => finite x
  | ⊤ => infinite false

/-- The number that an extended scalar is, unless it is none. -/
def number? : Extended K → Option (WithBotTop K)
  | finite x => some (x : WithBotTop K)
  | infinite s => some (if s then ⊥ else ⊤)
  | nan => none

@[simp] theorem number_bot : number (⊥ : WithBotTop K) = infinite true := rfl

@[simp] theorem number_coe (x : K) : number (x : WithBotTop K) = finite x := rfl

@[simp] theorem number_top : number (⊤ : WithBotTop K) = infinite false := rfl

theorem number?_number (v : WithBotTop K) : number? (number v) = some v := by
  cases v using WithBotTop.rec <;> rfl

theorem number?_eq_some_iff {x : Extended K} {v : WithBotTop K} :
    number? x = some v ↔ x = number v := by
  constructor
  · intro h
    cases x with
    | finite y =>
      cases h
      rfl
    | infinite s =>
      cases h
      cases s <;> rfl
    | nan => cases h
  · rintro rfl
    exact number?_number v

theorem number?_eq_none_iff {x : Extended K} : number? x = none ↔ x = nan := by
  cases x <;> simp [number?]

/-- A choice between numbers that passes over what is none chooses among the numbers of a list. -/
theorem foldl_eq_number {pick : Extended K → Extended K → Extended K}
    {choose : WithBotTop K → WithBotTop K → WithBotTop K}
    (hnumber : ∀ v w, pick (number v) (number w) = number (choose v w))
    (hnan : ∀ v, pick (number v) nan = number v) (v : WithBotTop K) (xs : List (Extended K)) :
    xs.foldl pick (number v) = number ((xs.filterMap number?).foldl choose v) := by
  induction xs generalizing v with
  | nil => rfl
  | cons x xs ih =>
    cases h : number? x with
    | none =>
      rw [List.foldl_cons, number?_eq_none_iff.1 h, hnan, ih]
      rfl
    | some w =>
      rw [List.foldl_cons, number?_eq_some_iff.1 h, hnumber, ih,
        List.filterMap_cons_some (number?_number w), List.foldl_cons]

variable [LinearOrder K]

theorem le_number (v w : WithBotTop K) : le (number v) (number w) = decide (v ≤ w) := by
  cases v using WithBotTop.rec <;> cases w using WithBotTop.rec <;> simp [le]

variable [Field K] [FloorRing K]

theorem least_number (v w : WithBotTop K) :
    Scalar.least (number v) (number w) = number (min v w) := by
  have hchoice : Scalar.least (number v) (number w) =
      if le (number v) (number w) then number v else number w := by
    cases v using WithBotTop.rec <;> cases w using WithBotTop.rec <;> rfl
  rw [hchoice, le_number, min_def, apply_ite number]
  simp

theorem greatest_number (v w : WithBotTop K) :
    Scalar.greatest (number v) (number w) = number (max v w) := by
  have hchoice : Scalar.greatest (number v) (number w) =
      if le (number v) (number w) then number w else number v := by
    cases v using WithBotTop.rec <;> cases w using WithBotTop.rec <;> rfl
  rw [hchoice, le_number, max_def, apply_ite number]
  simp

theorem least_nan (v : WithBotTop K) : Scalar.least (number v) nan = number v := by
  cases v using WithBotTop.rec <;> rfl

theorem greatest_nan (v : WithBotTop K) : Scalar.greatest (number v) nan = number v := by
  cases v using WithBotTop.rec <;> rfl

end Extended

namespace Box

open Extended (number number?)

variable [Field K] [LinearOrder K] [FloorRing K]

def ofNumbers (b : Box (WithBotTop K)) : Box (Extended K) :=
  ⟨number b.left, number b.bottom, number b.right, number b.top⟩

/-- The sides of `b` are the outermost numbers that the boxes have there.  Without a number a side is
at the far end. -/
def IsOutermost (boxes : List (Box (Extended K))) (b : Box (WithBotTop K)) : Prop :=
  IsHull number? (everted :: boxes) b

/-- The sides of `b` are the innermost numbers that the boxes have there.  Without a number a side is
at its own end. -/
def IsInnermost (boxes : List (Box (Extended K))) (b : Box (WithBotTop K)) : Prop :=
  IsOverlap number? (plane :: boxes) b

/-! ## Numbers at a side -/

section

variable (side : Box (Extended K) → Extended K)

omit [Field K] [LinearOrder K] [FloorRing K] in
theorem mem_filterMap_number? (v w : WithBotTop K) (boxes : List (Box (Extended K))) :
    w ∈ v :: (boxes.map side).filterMap number? ↔
      w ∈ insert v (numbersAt number? side boxes) := by
  simp only [List.mem_cons, List.mem_filterMap, List.mem_map, Set.mem_insert_iff, numbersAt,
    Set.mem_ofPred_eq, exists_exists_and_eq_and]

/-- The least number at a side of several boxes, one of which has the number `v` there. -/
theorem exists_foldl_least {b : Box (Extended K)} {v : WithBotTop K} (hb : side b = number v)
    (boxes : List (Box (Extended K))) :
    ∃ m, (boxes.map side).foldl Scalar.least (side b) = number m ∧
      IsLeast (numbersAt number? side (b :: boxes)) m := by
  have hleast := isLeast_foldl_min v ((boxes.map side).filterMap number?)
  simp only [mem_filterMap_number?] at hleast
  rw [hb, numbersAt_cons _ _ (Extended.number?_eq_some_iff.2 hb)]
  exact ⟨_, Extended.foldl_eq_number Extended.least_number Extended.least_nan v _, hleast⟩

theorem exists_foldl_greatest {b : Box (Extended K)} {v : WithBotTop K} (hb : side b = number v)
    (boxes : List (Box (Extended K))) :
    ∃ m, (boxes.map side).foldl Scalar.greatest (side b) = number m ∧
      IsGreatest (numbersAt number? side (b :: boxes)) m := by
  have hgreatest := isGreatest_foldl_max v ((boxes.map side).filterMap number?)
  simp only [mem_filterMap_number?] at hgreatest
  rw [hb, numbersAt_cons _ _ (Extended.number?_eq_some_iff.2 hb)]
  exact ⟨_, Extended.foldl_eq_number Extended.greatest_number Extended.greatest_nan v _, hgreatest⟩

end

/-! ## Hulls -/

theorem foldl_join_eq (b : Box (Extended K)) (boxes : List (Box (Extended K))) :
    boxes.foldl join b =
      ⟨(boxes.map (·.left)).foldl Scalar.least b.left,
        (boxes.map (·.bottom)).foldl Scalar.least b.bottom,
        (boxes.map (·.right)).foldl Scalar.greatest b.right,
        (boxes.map (·.top)).foldl Scalar.greatest b.top⟩ := by
  induction boxes generalizing b with
  | nil => rfl
  | cons c cs ih =>
    rw [List.foldl_cons, ih]
    rfl

/-- No side of a hull fails to be a number. -/
theorem exists_hull_eq (boxes : List (Box (Extended K))) :
    ∃ b, hull boxes = ofNumbers b ∧ IsOutermost boxes b := by
  obtain ⟨left, hleft, hleftLeast⟩ := exists_foldl_least (·.left) (b := everted) (v := ⊤) rfl boxes
  obtain ⟨bottom, hbottom, hbottomLeast⟩ :=
    exists_foldl_least (·.bottom) (b := everted) (v := ⊤) rfl boxes
  obtain ⟨right, hright, hrightGreatest⟩ :=
    exists_foldl_greatest (·.right) (b := everted) (v := ⊥) rfl boxes
  obtain ⟨top, htop, htopGreatest⟩ :=
    exists_foldl_greatest (·.top) (b := everted) (v := ⊥) rfl boxes
  refine ⟨⟨left, bottom, right, top⟩, ?_, hleftLeast, hbottomLeast, hrightGreatest, htopGreatest⟩
  rw [hull, foldl_join_eq, hleft, hbottom, hright, htop]
  rfl

theorem hull_eq_of_mem_iff {xs ys : List (Box (Extended K))} (h : ∀ b, b ∈ xs ↔ b ∈ ys) :
    hull xs = hull ys := by
  obtain ⟨b, hxs, hb⟩ := exists_hull_eq xs
  obtain ⟨c, hys, hc⟩ := exists_hull_eq ys
  rw [hxs, hys, IsHull.eq_of_mem_iff hb hc (by simp [h])]

theorem hull_pair (b c : Box (WithBotTop K)) :
    hull [ofNumbers b, ofNumbers c] =
      ofNumbers
        ⟨min b.left c.left, min b.bottom c.bottom, max b.right c.right, max b.top c.top⟩ := by
  have hfirst : join everted (ofNumbers b) = ofNumbers b := by
    have heverted : (everted : Box (Extended K)) = ofNumbers ⟨⊤, ⊤, ⊥, ⊥⟩ := rfl
    rw [heverted]
    simp only [join, ofNumbers, Extended.least_number, Extended.greatest_number, top_inf_eq,
      bot_sup_eq]
  rw [hull, List.foldl_cons, hfirst]
  simp only [List.foldl_cons, List.foldl_nil, join, ofNumbers, Extended.least_number,
    Extended.greatest_number]

theorem hull_append (xs ys : List (Box (Extended K))) :
    hull (xs ++ ys) = hull [hull xs, hull ys] := by
  obtain ⟨b, hxs, hb⟩ := exists_hull_eq xs
  obtain ⟨c, hys, hc⟩ := exists_hull_eq ys
  obtain ⟨d, happend, hd⟩ := exists_hull_eq (xs ++ ys)
  have hparts := IsHull.append hb hc
  rw [hxs, hys, happend, hull_pair, IsHull.eq_of_mem_iff hd hparts fun x => ?_]
  simp only [List.mem_cons, List.mem_append]
  tauto

/-! ## Overlaps -/

/-- An overlap is a hull with opposite sides exchanged. -/
theorem overlap_eq_turned (boxes : List (Box (Extended K))) :
    overlap boxes = (hull (boxes.map turned)).turned :=
  foldl_meet_eq_turned plane boxes

theorem exists_overlap_eq (boxes : List (Box (Extended K))) :
    ∃ b, overlap boxes = ofNumbers b ∧ IsInnermost boxes b := by
  obtain ⟨b, hhull, hb⟩ := exists_hull_eq (boxes.map turned)
  refine ⟨b.turned, ?_, isOverlap_iff_turned.2 hb⟩
  rw [overlap_eq_turned, hhull]
  rfl

theorem overlap_eq_of_mem_iff {xs ys : List (Box (Extended K))} (h : ∀ b, b ∈ xs ↔ b ∈ ys) :
    overlap xs = overlap ys := by
  have hturned : hull (xs.map turned) = hull (ys.map turned) := by
    apply hull_eq_of_mem_iff
    simp [h]
  rw [overlap_eq_turned, hturned, ← overlap_eq_turned]

theorem overlap_append (xs ys : List (Box (Extended K))) :
    overlap (xs ++ ys) = overlap [overlap xs, overlap ys] := by
  simp only [overlap_eq_turned, List.map_append, List.map_cons, List.map_nil, turned_turned]
  rw [hull_append]

/-! ## Points -/

section

variable {xs : List (Box (WithBotTop K))} {c : Box (WithBotTop K)}

omit [Field K] [FloorRing K] in
/-- A least side is an upper end for what lies below that side of every box. -/
theorem le_iff_of_isLeast {side : Box (Extended K) → Extended K}
    {edge : Box (WithBotTop K) → WithBotTop K} (hside : ∀ b, side (ofNumbers b) = number (edge b))
    {far : Box (Extended K)} (hfar : side far = number ⊤) {v : WithBotTop K}
    (hv : IsLeast (numbersAt number? side (far :: xs.map ofNumbers)) v) (x : WithBotTop K) :
    x ≤ v ↔ ∀ b ∈ xs, x ≤ edge b := by
  rw [le_isGLB_iff hv.isGLB, numbersAt_cons _ _ (Extended.number?_eq_some_iff.2 hfar),
    numbersAt_map, lowerBounds_insert]
  simp [lowerBounds, hside, Extended.number?_number]

omit [Field K] [FloorRing K] in
theorem le_iff_of_isGreatest {side : Box (Extended K) → Extended K}
    {edge : Box (WithBotTop K) → WithBotTop K} (hside : ∀ b, side (ofNumbers b) = number (edge b))
    {far : Box (Extended K)} (hfar : side far = number ⊥) {v : WithBotTop K}
    (hv : IsGreatest (numbersAt number? side (far :: xs.map ofNumbers)) v) (x : WithBotTop K) :
    v ≤ x ↔ ∀ b ∈ xs, edge b ≤ x := by
  rw [isLUB_le_iff hv.isLUB, numbersAt_cons _ _ (Extended.number?_eq_some_iff.2 hfar),
    numbersAt_map, upperBounds_insert]
  simp [upperBounds, hside, Extended.number?_number]

theorem IsOutermost.holds {b : Box (WithBotTop K)} (hc : IsOutermost (xs.map ofNumbers) c)
    (hb : b ∈ xs) {p : Position (WithBotTop K)} (hp : b.Holds p) : c.Holds p := by
  have hleft := (le_iff_of_isLeast (fun _ => rfl) rfl hc.left _).1 le_rfl b hb
  have hbottom := (le_iff_of_isLeast (fun _ => rfl) rfl hc.bottom _).1 le_rfl b hb
  have hright := (le_iff_of_isGreatest (fun _ => rfl) rfl hc.right _).1 le_rfl b hb
  have htop := (le_iff_of_isGreatest (fun _ => rfl) rfl hc.top _).1 le_rfl b hb
  exact ⟨hleft.trans hp.left, hp.right.trans hright, hbottom.trans hp.bottom, hp.top.trans htop⟩

/-- A box that holds the points of ordered boxes reaches as far as their outermost sides: each of
these goes through a corner. -/
theorem IsOutermost.holds_of_forall {d : Box (WithBotTop K)}
    (hc : IsOutermost (xs.map ofNumbers) c)
    (hxs : ∀ b ∈ xs, b.left ≤ b.right ∧ b.bottom ≤ b.top)
    (hd : ∀ b ∈ xs, ∀ p, b.Holds p → d.Holds p) {p : Position (WithBotTop K)} (hp : c.Holds p) :
    d.Holds p := by
  have hlow (b : Box (WithBotTop K)) (hb : b ∈ xs) : d.Holds ⟨b.left, b.bottom⟩ :=
    hd b hb _ ⟨le_rfl, (hxs b hb).1, le_rfl, (hxs b hb).2⟩
  have hhigh (b : Box (WithBotTop K)) (hb : b ∈ xs) : d.Holds ⟨b.right, b.top⟩ :=
    hd b hb _ ⟨(hxs b hb).1, le_rfl, (hxs b hb).2, le_rfl⟩
  have hleft : d.left ≤ c.left :=
    (le_iff_of_isLeast (fun _ => rfl) rfl hc.left _).2 fun b hb => (hlow b hb).left
  have hbottom : d.bottom ≤ c.bottom :=
    (le_iff_of_isLeast (fun _ => rfl) rfl hc.bottom _).2 fun b hb => (hlow b hb).bottom
  have hright : c.right ≤ d.right :=
    (le_iff_of_isGreatest (fun _ => rfl) rfl hc.right _).2 fun b hb => (hhigh b hb).right
  have htop : c.top ≤ d.top :=
    (le_iff_of_isGreatest (fun _ => rfl) rfl hc.top _).2 fun b hb => (hhigh b hb).top
  exact ⟨hleft.trans hp.left, hp.right.trans hright, hbottom.trans hp.bottom, hp.top.trans htop⟩

theorem IsInnermost.horizontal_iff (hc : IsInnermost (xs.map ofNumbers) c) (x : WithBotTop K) :
    c.left ≤ x ∧ x ≤ c.right ↔ ∀ b ∈ xs, b.left ≤ x ∧ x ≤ b.right := by
  rw [le_iff_of_isGreatest (fun _ => rfl) rfl hc.left, le_iff_of_isLeast (fun _ => rfl) rfl hc.right]
  exact forall₂_and.symm

theorem IsInnermost.vertical_iff (hc : IsInnermost (xs.map ofNumbers) c) (y : WithBotTop K) :
    c.bottom ≤ y ∧ y ≤ c.top ↔ ∀ b ∈ xs, b.bottom ≤ y ∧ y ≤ b.top := by
  rw [le_iff_of_isGreatest (fun _ => rfl) rfl hc.bottom, le_iff_of_isLeast (fun _ => rfl) rfl hc.top]
  exact forall₂_and.symm

theorem IsInnermost.holds_iff (hc : IsInnermost (xs.map ofNumbers) c)
    (p : Position (WithBotTop K)) : c.Holds p ↔ ∀ b ∈ xs, b.Holds p := by
  have hx := hc.horizontal_iff p.x
  have hy := hc.vertical_iff p.y
  constructor
  · intro hp b hb
    obtain ⟨hleft, hright⟩ := hx.1 ⟨hp.left, hp.right⟩ b hb
    obtain ⟨hbottom, htop⟩ := hy.1 ⟨hp.bottom, hp.top⟩ b hb
    exact ⟨hleft, hright, hbottom, htop⟩
  · intro hp
    obtain ⟨hleft, hright⟩ := hx.2 fun b hb => ⟨(hp b hb).left, (hp b hb).right⟩
    obtain ⟨hbottom, htop⟩ := hy.2 fun b hb => ⟨(hp b hb).bottom, (hp b hb).top⟩
    exact ⟨hleft, hright, hbottom, htop⟩

omit [Field K] [FloorRing K] in
/-- Two ends are in the wrong order exactly when nothing lies between them. -/
theorem lt_iff_not_exists_between {u v : WithBotTop K} :
    v < u ↔ ¬∃ x, u ≤ x ∧ x ≤ v := by
  rw [← not_le]
  exact not_congr ⟨fun h => ⟨u, le_rfl, h⟩, fun ⟨_, hu, hv⟩ => hu.trans hv⟩

end

/-- The hull and the overlap of boxes depend on which boxes there are and not on their order,
repetition or grouping.  Their sides are numbers, the extreme ones at each side.  The hull of ordered
boxes is the smallest box around them; the overlap has the points that all of them have, and is
inverted along an axis when they have no coordinate there in common. -/
theorem hull_overlap_bounds :
    (∀ xs ys : List (Box (Extended K)), (∀ b, b ∈ xs ↔ b ∈ ys) →
      hull xs = hull ys ∧ overlap xs = overlap ys) ∧
    (∀ xs ys : List (Box (Extended K)), hull (xs ++ ys) = hull [hull xs, hull ys] ∧
      overlap (xs ++ ys) = overlap [overlap xs, overlap ys]) ∧
    (∀ xs : List (Box (Extended K)), (∃ b, hull xs = ofNumbers b ∧ IsOutermost xs b) ∧
      ∃ b, overlap xs = ofNumbers b ∧ IsInnermost xs b) ∧
    ∀ xs : List (Box (WithBotTop K)), (∀ b ∈ xs, b.left ≤ b.right ∧ b.bottom ≤ b.top) →
      (∃ c, hull (xs.map ofNumbers) = ofNumbers c ∧ (∀ b ∈ xs, ∀ p, b.Holds p → c.Holds p) ∧
        ∀ d : Box (WithBotTop K), (∀ b ∈ xs, ∀ p, b.Holds p → d.Holds p) →
          ∀ p, c.Holds p → d.Holds p) ∧
      ∃ c, overlap (xs.map ofNumbers) = ofNumbers c ∧ (∀ p, c.Holds p ↔ ∀ b ∈ xs, b.Holds p) ∧
        (c.right < c.left ↔ ¬∃ x, ∀ b ∈ xs, b.left ≤ x ∧ x ≤ b.right) ∧
        (c.top < c.bottom ↔ ¬∃ y, ∀ b ∈ xs, b.bottom ≤ y ∧ y ≤ b.top) := by
  refine ⟨?_, ?_, ?_, ?_⟩
  · intro xs ys h
    exact ⟨hull_eq_of_mem_iff h, overlap_eq_of_mem_iff h⟩
  · intro xs ys
    exact ⟨hull_append xs ys, overlap_append xs ys⟩
  · intro xs
    exact ⟨exists_hull_eq xs, exists_overlap_eq xs⟩
  · intro xs hxs
    obtain ⟨c, hhull, hc⟩ := exists_hull_eq (xs.map ofNumbers)
    obtain ⟨d, hoverlap, hd⟩ := exists_overlap_eq (xs.map ofNumbers)
    refine ⟨⟨c, hhull, fun b hb p => hc.holds hb, fun e he p => hc.holds_of_forall hxs he⟩,
      d, hoverlap, hd.holds_iff, ?_, ?_⟩
    · simp only [lt_iff_not_exists_between, hd.horizontal_iff]
    · simp only [lt_iff_not_exists_between, hd.vertical_iff]

/-- A box without a left side that is a number, listed twice, and two boxes apart, one of which
reaches to infinity. -/
theorem hull_overlap_bounds_apart :
    let open_ : Box (Extended ℚ) := ⟨.nan, .finite 0, .finite 1, .infinite false⟩
    let near : Box (WithBotTop ℚ) := ⟨(0 : ℚ), (0 : ℚ), (1 : ℚ), (1 : ℚ)⟩
    let far : Box (WithBotTop ℚ) := ⟨(2 : ℚ), (0 : ℚ), ⊤, (1 : ℚ)⟩
    hull [open_, ofNumbers near] = hull [ofNumbers near, open_, ofNumbers near] ∧
      ∃ c, overlap [ofNumbers near, ofNumbers far] = ofNumbers c ∧ c.right < c.left := by
  intro open_ near far
  obtain ⟨horder, -, -, hpoints⟩ := hull_overlap_bounds (K := ℚ)
  have hmem : ∀ b, b ∈ [open_, ofNumbers near] ↔ b ∈ [ofNumbers near, open_, ofNumbers near] := by
    intro b
    simp only [List.mem_cons, List.not_mem_nil, or_false]
    tauto
  have hordered : ∀ b ∈ [near, far], b.left ≤ b.right ∧ b.bottom ≤ b.top := by
    intro b hb
    simp only [List.mem_cons, List.not_mem_nil, or_false] at hb
    rcases hb with rfl | rfl
    · simp [near]
    · simp [far]
  obtain ⟨-, c, hoverlap, -, hinverted, -⟩ := hpoints [near, far] hordered
  refine ⟨(horder _ _ hmem).1, c, hoverlap, hinverted.2 ?_⟩
  rintro ⟨x, hx⟩
  have hle := (hx far (by simp)).1.trans (hx near (by simp)).2
  simp only [near, far, WithBotTop.coe_le_coe] at hle
  norm_num at hle

end Box

end Graticule
