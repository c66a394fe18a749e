import Graticule.Planar.Place
import Graticule.Proofs.Geometry.Envelope
import Graticule.Proofs.Geometry.Vertices

/-!
# Even-odd membership

A point belongs to an area under the even-odd rule when the ray from it to the left crosses the
rings of the area an odd number of times.  Of the two ends of an edge only the lower one counts, so
a ray through a vertex crosses what passes through the height of the vertex and no more; horizontal
edges are never crossed.

Crossings are counted along paths: `Path.crossings_append` splits the count at a vertex, and over
exact scalars neither repeated vertices nor the closing of a closed path change it.  The counts of
finite paths are the same among scalars with infinities.
-/

namespace Graticule

theorem odd_add (m n : ℕ) : ((m + n) % 2 == 1) = ((m % 2 == 1) != (n % 2 == 1)) := by
  rcases Nat.mod_two_eq_zero_or_one m with hm | hm <;>
    rcases Nat.mod_two_eq_zero_or_one n with hn | hn <;> simp [Nat.add_mod, hm, hn]

theorem odd_toNat (b : Bool) : (b.toNat % 2 == 1) = b := by
  cases b <;> rfl

/-- One more crossing turns an odd number into an even one and back. -/
theorem odd_toNat_add (b : Bool) (n : ℕ) : ((b.toNat + n) % 2 == 1) = (b != (n % 2 == 1)) := by
  rw [odd_add, odd_toNat]

section

variable {α : Type} [Scalar α]

namespace Edge

/-- Where the straight line through the edge is at a height. -/
def abscissa (e : Edge α) (y : α) : α :=
  e.start.x + (y - e.start.y) / (e.stop.y - e.start.y) * (e.stop.x - e.start.x)

def spans (e : Edge α) (y : α) : Bool := decide (e.start.y ≤ y) != decide (e.stop.y ≤ y)

/-- The ray from a point to the left crosses the edge. -/
def crosses (e : Edge α) (p : Position α) : Bool :=
  e.spans p.y && decide (e.abscissa p.y < p.x)

def passes (e : Edge α) (p : Position α) : Bool :=
  (e.stop.minus e.start).cross (p.minus e.start) == 0 && p.isBetween e.start e.stop

theorem crosses_of_horizontal {e : Edge α} (h : e.start.y = e.stop.y) (p : Position α) :
    e.crosses p = false := by
  unfold crosses spans
  rw [h]
  simp

end Edge

namespace Path

def crossings (path : Path α) (p : Position α) : ℕ := path.edgeList.countP (·.crosses p)

def passes (path : Path α) (p : Position α) : Bool := path.edgeList.any (·.passes p)

end Path

namespace Polygon

def crossings (polygon : Polygon α) (p : Position α) : ℕ :=
  (polygon.rings.map (·.crossings p)).sum

def encloses (polygon : Polygon α) (p : Position α) : Bool := polygon.crossings p % 2 == 1

end Polygon

/-! ## Areas of several polygons -/

namespace Area

def crossings (area : List (Polygon α)) (p : Position α) : ℕ := (area.map (·.crossings p)).sum

def encloses (area : List (Polygon α)) (p : Position α) : Bool := crossings area p % 2 == 1

theorem encloses_cons (polygon : Polygon α) (area : List (Polygon α)) (p : Position α) :
    encloses (polygon :: area) p = (polygon.encloses p != encloses area p) := by
  unfold encloses crossings
  rw [List.map_cons, List.sum_cons, odd_add]
  rfl

theorem encloses_singleton (polygon : Polygon α) (p : Position α) :
    encloses [polygon] p = polygon.encloses p := rfl

end Area

/-! ## Edges and crossings along a path -/

namespace Path

omit [Scalar α] in
theorem edgeList_cons_cons (a b : Position α) (path : Path α) :
    edgeList (a :: b :: path) = ⟨a, b⟩ :: edgeList (b :: path) := rfl

omit [Scalar α] in
/-- The edges of a path are those before and those after one of its vertices. -/
theorem edgeList_append (before : Path α) (a : Position α) (after : Path α) :
    edgeList (before ++ a :: after) = edgeList (before ++ [a]) ++ edgeList (a :: after) := by
  induction before with
  | nil => rfl
  | cons b before ih =>
    cases before with
    | nil => rfl
    | cons c before =>
      simp only [List.cons_append, edgeList_cons_cons] at ih ⊢
      rw [ih]

theorem crossings_cons_cons (a b : Position α) (path : Path α) (p : Position α) :
    crossings (a :: b :: path) p =
      (Edge.crosses ⟨a, b⟩ p).toNat + crossings (b :: path) p := by
  unfold crossings
  rw [edgeList_cons_cons, List.countP_cons, add_comm]
  cases Edge.crosses ⟨a, b⟩ p <;> rfl

theorem crossings_append (before : Path α) (a : Position α) (after : Path α) (p : Position α) :
    crossings (before ++ a :: after) p = crossings (before ++ [a]) p + crossings (a :: after) p := by
  unfold crossings
  rw [edgeList_append, List.countP_append]

theorem passes_cons_cons (a b : Position α) (path : Path α) (p : Position α) :
    passes (a :: b :: path) p = (Edge.passes ⟨a, b⟩ p || passes (b :: path) p) := rfl

theorem passes_append (before : Path α) (a : Position α) (after : Path α) (p : Position α) :
    passes (before ++ a :: after) p = (passes (before ++ [a]) p || passes (a :: after) p) := by
  unfold passes
  rw [edgeList_append, List.any_append]

/-- A path that stays above a height, or stays at the height or below, is not crossed there. -/
theorem crossings_eq_zero {path : Path α} {p : Position α} (isBelow : Bool)
    (h : ∀ q ∈ path, decide (q.y ≤ p.y) = isBelow) : path.crossings p = 0 := by
  induction path with
  | nil => rfl
  | cons a path ih =>
    cases path with
    | nil => rfl
    | cons b path =>
      have hedge : Edge.crosses ⟨a, b⟩ p = false := by
        unfold Edge.crosses Edge.spans
        rw [h a List.mem_cons_self, h b (List.mem_cons_of_mem a List.mem_cons_self),
          bne_self_eq_false, Bool.false_and]
      rw [crossings_cons_cons, hedge, ih fun q hq => h q (List.mem_cons_of_mem a hq)]
      rfl

end Path

end

/-! ## Exact scalars -/

section

open scoped Exact

variable {K : Type} [Field K] [LinearOrder K] [FloorRing K]

omit [Field K] [FloorRing K] in
theorem Position.eq_of_beq {p q : Position K} (h : (p == q) = true) : p = q := by
  obtain ⟨x, y⟩ := p
  obtain ⟨z, w⟩ := q
  obtain ⟨hx, hy⟩ := Bool.and_eq_true_iff.1 h
  rw [Position.mk.injEq]
  exact ⟨of_decide_eq_true hx, of_decide_eq_true hy⟩

namespace Edge

theorem sub_ne_zero_of_spans {e : Edge K} {y : K} (h : e.spans y = true) :
    e.stop.y - e.start.y ≠ 0 := by
  intro heq
  unfold spans at h
  rw [sub_eq_zero.1 heq, bne_self_eq_false] at h
  cases h

theorem crosses_of_vertical (x y z : K) (p : Position K) :
    crosses ⟨⟨x, y⟩, ⟨x, z⟩⟩ p = ((decide (y ≤ p.y) != decide (z ≤ p.y)) && decide (x < p.x)) := by
  unfold crosses abscissa spans
  simp

end Edge

namespace Path

omit [Field K] [FloorRing K] in
theorem dropRepeatsFrom_eq_cons (a : Position K) (path : Path K) :
    ∃ rest, dropRepeatsFrom a path = a :: rest := by
  induction path generalizing a with
  | nil => exact ⟨[], rfl⟩
  | cons b path ih =>
    unfold dropRepeatsFrom
    split_ifs
    · exact ih a
    · exact ⟨_, rfl⟩

omit [Field K] [FloorRing K] in
theorem getLast?_dropRepeatsFrom (a : Position K) (path : Path K) :
    (dropRepeatsFrom a path).getLast? = (a :: path).getLast? := by
  induction path generalizing a with
  | nil => rfl
  | cons b path ih =>
    unfold dropRepeatsFrom
    split_ifs with hab
    · rw [ih, Position.eq_of_beq hab]
      rfl
    · obtain ⟨rest, hrest⟩ := dropRepeatsFrom_eq_cons b path
      have hlast := ih b
      rw [hrest] at hlast ⊢
      rw [List.getLast?_cons_cons, hlast, List.getLast?_cons_cons]

theorem crossings_dropRepeatsFrom (a : Position K) (path : Path K) (p : Position K) :
    crossings (dropRepeatsFrom a path) p = crossings (a :: path) p := by
  induction path generalizing a with
  | nil => rfl
  | cons b path ih =>
    unfold dropRepeatsFrom
    rw [crossings_cons_cons]
    split_ifs with hab
    -- the edge that is dropped has no height
    · rw [ih, Position.eq_of_beq hab, Edge.crosses_of_horizontal rfl]
      exact (Nat.zero_add _).symm
    · obtain ⟨rest, hrest⟩ := dropRepeatsFrom_eq_cons b path
      have hcount := ih b
      rw [hrest] at hcount ⊢
      rw [crossings_cons_cons, hcount]

/-- Dropping repeated vertices and closing a path that ends where it starts keep its crossings. -/
theorem crossings_close_dropRepeats {path : Path K} (h : path.head? = path.getLast?)
    (p : Position K) : path.dropRepeats.close.crossings p = path.crossings p := by
  cases path with
  | nil => rfl
  | cons a path =>
    have hclosed : (dropRepeatsFrom a path).isClosed = true := by
      obtain ⟨rest, hrest⟩ := dropRepeatsFrom_eq_cons a path
      unfold isClosed
      rw [getLast?_dropRepeatsFrom, ← h, hrest]
      exact Position.beq_self a
    change (dropRepeatsFrom a path).close.crossings p = _
    rw [close_of_isClosed hclosed, crossings_dropRepeatsFrom]

/-- A ray crosses a vertical path an odd number of times when it crosses the way from end to end. -/
theorem odd_crossings_of_vertical {path : Path K} {x : K} (hx : ∀ q ∈ path, q.x = x)
    {first last : Position K} (hfirst : path.head? = some first)
    (hlast : path.getLast? = some last) (p : Position K) :
    (path.crossings p % 2 == 1) =
      ((decide (first.y ≤ p.y) != decide (last.y ≤ p.y)) && decide (x < p.x)) := by
  induction path generalizing first with
  | nil => cases hfirst
  | cons a path ih =>
    cases hfirst
    cases path with
    | nil =>
      obtain rfl : a = last := Option.some.inj hlast
      rw [bne_self_eq_false]
      rfl
    | cons b path =>
      have hrest := ih (fun q hq => hx q (List.mem_cons_of_mem a hq)) rfl hlast
      have hedge : Edge.crosses ⟨a, b⟩ p =
          ((decide (a.y ≤ p.y) != decide (b.y ≤ p.y)) && decide (x < p.x)) := by
        have ha : a = ⟨x, a.y⟩ := by rw [← hx a List.mem_cons_self]
        have hb : b = ⟨x, b.y⟩ := by rw [← hx b (List.mem_cons_of_mem a List.mem_cons_self)]
        rw [ha, hb]
        exact Edge.crosses_of_vertical x a.y b.y p
      rw [crossings_cons_cons, odd_toNat_add, hrest, hedge]
      cases decide (a.y ≤ p.y) <;> cases decide (b.y ≤ p.y) <;> cases decide (x < p.x) <;> simp

end Path

namespace Shape

/-- A rectangle encloses what lies between its sides, the left and the lower side included. -/
theorem encloses_rectanglePolygon (low high p : Position K) :
    (rectanglePolygon low high).encloses p =
      ((decide (low.y ≤ p.y) != decide (high.y ≤ p.y)) &&
        (decide (high.x < p.x) != decide (low.x < p.x))) := by
  let ring : Path K :=
    [⟨high.x, low.y⟩, ⟨high.x, high.y⟩, ⟨low.x, high.y⟩, ⟨low.x, low.y⟩, ⟨high.x, low.y⟩]
  have hclosed : ring.isClosed = true := Position.beq_self (⟨high.x, low.y⟩ : Position K)
  have hring : (rectanglePolygon low high).crossings p = ring.crossings p := by
    unfold rectanglePolygon Polygon.crossings Polygon.ofPaths Polygon.rings
    rw [Path.close_of_isClosed hclosed]
    rfl
  have hright : Edge.crosses ⟨⟨high.x, low.y⟩, ⟨high.x, high.y⟩⟩ p =
      ((decide (low.y ≤ p.y) != decide (high.y ≤ p.y)) && decide (high.x < p.x)) :=
    Edge.crosses_of_vertical ..
  have hleft : Edge.crosses ⟨⟨low.x, high.y⟩, ⟨low.x, low.y⟩⟩ p =
      ((decide (high.y ≤ p.y) != decide (low.y ≤ p.y)) && decide (low.x < p.x)) :=
    Edge.crosses_of_vertical ..
  have htop : Edge.crosses ⟨⟨high.x, high.y⟩, ⟨low.x, high.y⟩⟩ p = false :=
    Edge.crosses_of_horizontal rfl p
  have hbottom : Edge.crosses ⟨⟨low.x, low.y⟩, ⟨high.x, low.y⟩⟩ p = false :=
    Edge.crosses_of_horizontal rfl p
  unfold Polygon.encloses
  rw [hring, Path.crossings_cons_cons, Path.crossings_cons_cons, Path.crossings_cons_cons,
    Path.crossings_cons_cons, hright, htop, hleft, hbottom]
  simp only [odd_toNat_add]
  cases decide (low.y ≤ p.y) <;> cases decide (high.y ≤ p.y) <;> cases decide (high.x < p.x) <;>
    cases decide (low.x < p.x) <;> rfl

end Shape

/-! ## Finite values -/

theorem Extended.eq_of_beq_finite {x : Extended K} {y : K}
    (h : (x == Extended.finite y) = true) : x = .finite y := by
  cases x with
  | finite v => exact congrArg _ (of_decide_eq_true h)
  | infinite s => exact absurd h Bool.false_ne_true
  | nan => exact absurd h Bool.false_ne_true

theorem Position.eq_of_beq_finite {q : Position (Extended K)} {p : Position K}
    (h : (q == p.finite) = true) : q = p.finite := by
  obtain ⟨x, y⟩ := q
  obtain ⟨hx, hy⟩ := Bool.and_eq_true_iff.1 h
  rw [Extended.eq_of_beq_finite hx, Extended.eq_of_beq_finite hy]
  rfl

theorem Position.exists_eq_finite {q : Position (Extended K)} (h : q.isFinite = true) :
    ∃ p : Position K, q = p.finite := by
  obtain ⟨x, y⟩ := q
  obtain ⟨hx, hy⟩ := Bool.and_eq_true_iff.1 h
  obtain ⟨v, rfl⟩ := (Extended.isFinite_iff x).1 hx
  obtain ⟨w, rfl⟩ := (Extended.isFinite_iff y).1 hy
  exact ⟨⟨v, w⟩, rfl⟩

namespace Edge

def finite (e : Edge K) : Edge (Extended K) := ⟨e.start.finite, e.stop.finite⟩

theorem spans_finite (e : Edge K) (y : K) : e.finite.spans (.finite y) = e.spans y := by
  unfold spans finite Position.finite
  simp only [Extended.finite_le]

theorem abscissa_finite {e : Edge K} {y : K} (h : e.spans y = true) :
    e.finite.abscissa (.finite y) = .finite (e.abscissa y) := by
  have hne : e.stop.y - e.start.y ≠ 0 := sub_ne_zero_of_spans h
  unfold abscissa finite Position.finite
  simp only [Extended.finite_sub, Extended.finite_div _ hne, Extended.finite_mul,
    Extended.finite_add]

theorem crosses_finite (e : Edge K) (p : Position K) : e.finite.crosses p.finite = e.crosses p := by
  unfold crosses
  change (e.finite.spans (.finite p.y) && _) = _
  rw [spans_finite]
  cases hspans : e.spans p.y with
  | false => rfl
  | true =>
    change (_ && decide (e.finite.abscissa (.finite p.y) < .finite p.x)) = _
    simp only [abscissa_finite hspans, Extended.finite_lt]

end Edge

namespace Path

theorem exists_eq_map_finite {path : Path (Extended K)}
    (h : ∀ q ∈ path, q.isFinite = true) : ∃ finitePath : Path K,
      path = finitePath.map Position.finite := by
  induction path with
  | nil => exact ⟨[], rfl⟩
  | cons q path ih =>
    obtain ⟨p, rfl⟩ := Position.exists_eq_finite (h q List.mem_cons_self)
    obtain ⟨rest, rfl⟩ := ih fun r hr => h r (List.mem_cons_of_mem _ hr)
    exact ⟨p :: rest, rfl⟩

theorem dropRepeatsFrom_finite (a : Position K) (path : Path K) :
    dropRepeatsFrom a.finite (path.map Position.finite) =
      (dropRepeatsFrom a path).map Position.finite := by
  induction path generalizing a with
  | nil => rfl
  | cons b path ih =>
    unfold dropRepeatsFrom
    rw [List.map_cons]
    change (if a.finite == b.finite then _ else a.finite :: _) = _
    rw [Position.beq_finite, ih, ih]
    split_ifs <;> rfl

theorem dropRepeats_finite (path : Path K) :
    dropRepeats (path.map Position.finite) = path.dropRepeats.map Position.finite := by
  cases path with
  | nil => rfl
  | cons a path => exact dropRepeatsFrom_finite a path

omit [Field K] [LinearOrder K] [FloorRing K] in
theorem edgeList_finite (path : Path K) :
    edgeList (path.map Position.finite) = path.edgeList.map Edge.finite := by
  unfold edgeList edges
  rw [← List.map_tail, List.zip_map, List.map_map, List.map_map]
  rfl

theorem crossings_finite (path : Path K) (p : Position K) :
    crossings (path.map Position.finite) p.finite = path.crossings p := by
  unfold crossings
  rw [edgeList_finite, List.countP_map]
  exact List.countP_congr fun e _ => by rw [Function.comp_apply, Edge.crosses_finite]

end Path

namespace Polygon

def finite (polygon : Polygon K) : Polygon (Extended K) :=
  ⟨polygon.exterior.map Position.finite, polygon.holes.map (·.map Position.finite)⟩

theorem ofPaths_finite (path : Path K) :
    ofPaths (path.map Position.finite) [] = (ofPaths path []).finite := by
  unfold ofPaths finite
  rw [Path.close_finite]
  rfl

omit [Field K] [LinearOrder K] [FloorRing K] in
theorem rings_finite (polygon : Polygon K) :
    polygon.finite.rings = polygon.rings.map (·.map Position.finite) := rfl

theorem crossings_finite (polygon : Polygon K) (p : Position K) :
    polygon.finite.crossings p.finite = polygon.crossings p := by
  unfold crossings
  rw [rings_finite, List.map_map]
  congr 1
  exact List.map_congr_left fun ring _ => Path.crossings_finite ring p

theorem encloses_finite (polygon : Polygon K) (p : Position K) :
    polygon.finite.encloses p.finite = polygon.encloses p := by
  unfold encloses
  rw [crossings_finite]

end Polygon

end

end Graticule
