import Graticule.Proofs.Geometry.Correspondence
import Graticule.Proofs.Planar.Winding
import Graticule.Proofs.Scalar.Real

/-!
# Segmentation of straight edges

Over the reals the vertices that segmentation adds to an edge divide it in fixed ratios, so they lie
on the edge, and their distances from its start are the multiples of the step below its length.  The
edge falls into pieces of one step each and a last piece that is not longer.
`Geometry.segmented_refines` says this of every line and every ring of a geometry.
-/

namespace Graticule

open scoped Exact

namespace Exact

scoped instance finiteRefl : Scalar.FiniteRefl ℝ where
  beq_self x _ := decide_eq_true (rfl : x = x)

end Exact

noncomputable section

/-- A test that holds of the numbers below `n` and no others takes just these from a range. -/
theorem takeWhile_range {test : ℕ → Bool} {m n : ℕ} (hmn : n ≤ m)
    (h : ∀ k, test k = true ↔ k < n) : (List.range m).takeWhile test = List.range n := by
  obtain ⟨d, rfl⟩ := Nat.exists_eq_add_of_le hmn
  have hbelow : ∀ k ∈ List.range n, test k = true := fun k hk => (h k).2 (List.mem_range.1 hk)
  rw [List.range_add, List.takeWhile_append_of_pos hbelow]
  cases d with
  | zero => simp
  | succ d =>
    have hfirst : test n = false := Bool.eq_false_iff.2 fun hn => lt_irrefl n ((h n).1 hn)
    rw [List.range_succ_eq_map, List.map_cons, Nat.add_zero, List.takeWhile_cons, hfirst]
    simp

namespace Edge

/-! ## Points that divide an edge -/

def length (e : Edge ℝ) : ℝ := √((e.stop.x - e.start.x) ^ 2 + (e.stop.y - e.start.y) ^ 2)

def divide (e : Edge ℝ) (t : ℝ) : Position ℝ :=
  ⟨e.start.x + (e.stop.x - e.start.x) * t, e.start.y + (e.stop.y - e.start.y) * t⟩

theorem length_nonneg (e : Edge ℝ) : 0 ≤ e.length := Real.sqrt_nonneg _

@[simp] theorem divide_zero (e : Edge ℝ) : e.divide 0 = e.start := by
  simp [divide]

@[simp] theorem divide_one (e : Edge ℝ) : e.divide 1 = e.stop := by
  simp [divide]

theorem length_divide (e : Edge ℝ) (s t : ℝ) :
    length ⟨e.divide s, e.divide t⟩ = |t - s| * e.length := by
  have hsquares : ((e.divide t).x - (e.divide s).x) ^ 2 + ((e.divide t).y - (e.divide s).y) ^ 2 =
      (t - s) ^ 2 * ((e.stop.x - e.start.x) ^ 2 + (e.stop.y - e.start.y) ^ 2) := by
    unfold divide
    ring
  unfold length
  rw [hsquares, Real.sqrt_mul (sq_nonneg _), Real.sqrt_sq_eq_abs]

/-- Points at given distances from the start. -/
theorem length_divide_div {e : Edge ℝ} (he : 0 < e.length) (s t : ℝ) :
    length ⟨e.divide (s / e.length), e.divide (t / e.length)⟩ = |t - s| := by
  calc length ⟨e.divide (s / e.length), e.divide (t / e.length)⟩
      = |t / e.length - s / e.length| * e.length := length_divide e _ _
    _ = |t - s| / e.length * e.length := by rw [← sub_div, abs_div, abs_of_pos he]
    _ = |t - s| := div_mul_cancel₀ _ he.ne'

theorem passes_divide (e : Edge ℝ) {t : ℝ} (ht : 0 ≤ t ∧ t ≤ 1) :
    e.passes (e.divide t) = true := by
  refine (passes_iff_exists _ _).2 ⟨t, ht, ?_, ?_⟩ <;> exact congrArg _ (mul_comm _ _)

/-! ## Stations -/

/-- How many positive multiples of the step are less than the length. -/
def stationCount (step length : ℝ) : ℕ := ⌈length / step⌉₊ - 1

section

variable {step length : ℝ}

theorem lt_stationCount_iff (hstep : 0 < step) (k : ℕ) :
    k < stationCount step length ↔ ((k : ℝ) + 1) * step < length := by
  unfold stationCount
  rw [Nat.lt_sub_iff_add_lt, Nat.lt_ceil, lt_div_iff₀ hstep]
  push_cast
  exact Iff.rfl

theorem stationCount_mul_le (hstep : 0 < step) (hlength : 0 ≤ length) :
    stationCount step length * step ≤ length := by
  cases h : stationCount step length with
  | zero => simpa using hlength
  | succ k =>
    have hlast := (lt_stationCount_iff hstep k).1 (by rw [h]; exact Nat.lt_succ_self k)
    push_cast
    exact hlast.le

theorem le_stationCount_mul (length : ℝ) (hstep : 0 < step) :
    length ≤ ((stationCount step length : ℝ) + 1) * step :=
  not_lt.1 fun hlt => lt_irrefl _ ((lt_stationCount_iff hstep _).2 hlt)

theorem stationCount_le_truncate (hstep : 0 < step) (hlength : 0 ≤ length) :
    stationCount step length ≤ (Exact.truncate (length / step)).toNat + 1 := by
  have hratio : 0 ≤ length / step := div_nonneg hlength hstep.le
  have htruncate : (Exact.truncate (length / step)).toNat = ⌊length / step⌋₊ := by
    unfold Exact.truncate
    rw [if_neg hratio.not_gt, Int.floor_toNat]
  have hceil := Nat.ceil_le_floor_add_one (length / step)
  rw [htruncate]
  unfold stationCount
  omega

theorem stations_eq (hstep : 0 < step) (hlength : 0 ≤ length) :
    Path.stations step length =
      (List.range (stationCount step length)).map fun k : ℕ => ((k : ℝ) + 1) * step := by
  have hstation (k : ℕ) : (Scalar.ofNat (k + 1) : ℝ) * step = ((k : ℝ) + 1) * step := by
    rw [Exact.ofNat_eq, Nat.cast_add, Nat.cast_one]
  unfold Path.stations
  simp only [hstation, Exact.toNat_eq]
  rw [List.takeWhile_map, takeWhile_range (stationCount_le_truncate hstep hlength)]
  intro k
  rw [lt_stationCount_iff hstep]
  exact decide_eq_true_iff

end

def station (step : ℝ) (e : Edge ℝ) (k : ℕ) : Position ℝ := e.divide (k * step / e.length)

theorem station_zero (step : ℝ) (e : Edge ℝ) : e.station step 0 = e.start := by
  simp [station]

theorem stationsBetween_eq {step : ℝ} (hstep : 0 < step) (e : Edge ℝ) :
    Path.stationsBetween step e.start e.stop =
      (List.range (stationCount step e.length)).map fun k => e.station step (k + 1) := by
  change (Path.stations step e.length).map (fun s => e.divide (s / e.length)) = _
  rw [stations_eq hstep e.length_nonneg, List.map_map]
  refine List.map_congr_left fun k _ => ?_
  unfold station
  push_cast
  rfl

end Edge

/-! ## Pieces -/

/-- The edges through the first points of a sequence to one more point. -/
theorem Path.edgeList_map_range_append {α : Type} [Scalar α] (f : ℕ → Position α) (n : ℕ)
    (q : Position α) :
    Path.edgeList ((List.range (n + 1)).map f ++ [q]) =
      (List.range n).map (fun k => ⟨f k, f (k + 1)⟩) ++ [⟨f n, q⟩] := by
  induction n generalizing q with
  | zero => rfl
  | succ n ih =>
    have hsplit : (List.range (n + 1 + 1)).map f ++ [q] =
        (List.range (n + 1)).map f ++ f (n + 1) :: [q] := by
      simp [List.range_succ]
    rw [hsplit, edgeList_append, ih, List.range_succ, List.map_append]
    rfl

namespace Edge

variable {step : ℝ}

/-- A segmented edge goes from station to station and then to its end. -/
theorem segmented_path (hstep : 0 < step) (e : Edge ℝ) :
    e.path.segmented step =
      (List.range (stationCount step e.length + 1)).map (e.station step) ++ [e.stop] := by
  change e.start :: (Path.stationsBetween step e.start e.stop ++ [e.stop]) = _
  rw [stationsBetween_eq hstep, List.range_succ_eq_map, List.map_cons, station_zero, List.map_map]
  rfl

/-- The pieces of an edge: from each station to the next, and from the last station to the end. -/
theorem edgeList_segmented_path (hstep : 0 < step) (e : Edge ℝ) :
    Path.edgeList (e.path.segmented step) =
      (List.range (stationCount step e.length)).map
          (fun k => ⟨e.station step k, e.station step (k + 1)⟩) ++
        [⟨e.station step (stationCount step e.length), e.stop⟩] := by
  rw [segmented_path hstep, Path.edgeList_map_range_append]

/-- No piece of an edge is longer than the step. -/
theorem length_le_of_mem_segmented (hstep : 0 < step) (e : Edge ℝ) :
    ∀ piece ∈ Path.edgeList (e.path.segmented step), piece.length ≤ step := by
  intro piece hpiece
  rw [edgeList_segmented_path hstep, List.mem_append, List.mem_map, List.mem_singleton] at hpiece
  rcases hpiece with ⟨k, hk, rfl⟩ | rfl
  · have hbelow := (lt_stationCount_iff hstep k).1 (List.mem_range.1 hk)
    have hpos : 0 < e.length := lt_of_le_of_lt (by positivity) hbelow
    have hdistance : ((k + 1 : ℕ) : ℝ) * step - k * step = step := by
      push_cast
      ring
    unfold station
    rw [length_divide_div hpos, hdistance, abs_of_pos hstep]
  · have hbefore := stationCount_mul_le hstep e.length_nonneg
    have hafter := le_stationCount_mul e.length hstep
    by_cases hpos : 0 < e.length
    · have hstop : e.stop = e.divide (e.length / e.length) := by rw [div_self hpos.ne', divide_one]
      unfold station
      rw [hstop, length_divide_div hpos, abs_of_nonneg (sub_nonneg.2 hbefore)]
      linarith
    · have hzero : e.length = 0 := le_antisymm (not_lt.1 hpos) e.length_nonneg
      have hstart : e.station step (stationCount step e.length) = e.start := by
        unfold station
        rw [hzero, div_zero, divide_zero]
      rw [hstart]
      exact hzero.trans_le hstep.le

/-- The points added to an edge are on it, in order, at the multiples of the step from its start
that are less than its length. -/
structure IsDivided (step : ℝ) (e : Edge ℝ) (added : Path ℝ) : Prop where
  count : ∀ k : ℕ, k < added.length ↔ ((k : ℝ) + 1) * step < e.length
  place : ∀ (k : ℕ) (p : Position ℝ), added[k]? = some p →
    e.passes p = true ∧ length ⟨e.start, p⟩ = ((k : ℝ) + 1) * step

theorem isDivided_stationsBetween (hstep : 0 < step) (e : Edge ℝ) :
    e.IsDivided step (Path.stationsBetween step e.start e.stop) := by
  rw [stationsBetween_eq hstep]
  constructor
  · intro k
    rw [List.length_map, List.length_range]
    exact lt_stationCount_iff hstep k
  · intro k p hp
    obtain ⟨hk, hget⟩ := List.getElem?_eq_some_iff.1 hp
    rw [List.length_map, List.length_range] at hk
    rw [List.getElem_map, List.getElem_range] at hget
    have hbelow := (lt_stationCount_iff hstep k).1 hk
    have hpos : 0 < e.length := lt_of_le_of_lt (by positivity) hbelow
    have hfar : 0 ≤ ((k + 1 : ℕ) : ℝ) * step := by positivity
    have hnear : ((k + 1 : ℕ) : ℝ) * step ≤ e.length := by
      push_cast
      exact hbelow.le
    rw [← hget]
    constructor
    · exact e.passes_divide ⟨div_nonneg hfar hpos.le, div_le_one_of_le₀ hnear hpos.le⟩
    · have hdistance := length_divide_div hpos 0 (((k + 1 : ℕ) : ℝ) * step)
      rw [zero_div, divide_zero, sub_zero, abs_of_nonneg hfar] at hdistance
      rw [station, hdistance, Nat.cast_add, Nat.cast_one]

end Edge

namespace Path

/-! ## Paths -/

variable {step : ℝ}

/-- The edges of a segmented path are the pieces of its edges. -/
theorem edgeList_segmented {α : Type} [Elementary α] (step : α) (path : Path α) :
    edgeList (path.segmented step) =
      path.edgeList.flatMap fun e => edgeList (e.path.segmented step) := by
  induction path with
  | nil => rfl
  | cons p path ih =>
    cases path with
    | nil => rfl
    | cons q path =>
      obtain ⟨rest, hrest⟩ : ∃ rest, segmented step (q :: path) = q :: rest :=
        List.head?_eq_some_iff.1 (head?_segmented step (q :: path))
      rw [segmented_cons_cons, edgeList_cons_cons, List.flatMap_cons, ← ih, hrest,
        ← List.cons_append, edgeList_append]
      rfl

theorem length_le_of_mem_segmented (hstep : 0 < step) (path : Path ℝ) :
    ∀ e ∈ edgeList (path.segmented step), e.length ≤ step := by
  intro piece hpiece
  rw [edgeList_segmented, List.mem_flatMap] at hpiece
  obtain ⟨e, -, hmem⟩ := hpiece
  exact e.length_le_of_mem_segmented hstep piece hmem

/-- The second path has the vertices of the first and between them the points that divide its
edges. -/
inductive IsDivided (step : ℝ) : Path ℝ → Path ℝ → Prop where
  | nil : IsDivided step [] []
  | single (p : Position ℝ) : IsDivided step [p] [p]
  | edge {p q : Position ℝ} {added path fine : Path ℝ} (h : Edge.IsDivided step ⟨p, q⟩ added)
    (hrest : IsDivided step (q :: path) fine) :
    IsDivided step (p :: q :: path) (p :: (added ++ fine))

theorem isDivided_segmented (hstep : 0 < step) :
    ∀ path : Path ℝ, path.IsDivided step (path.segmented step)
  | [] => .nil
  | [p] => .single p
  | p :: q :: path =>
    .edge (Edge.isDivided_stationsBetween hstep ⟨p, q⟩) (isDivided_segmented hstep (q :: path))

/-- The second path refines the first: its edges are divided into pieces that are not longer than
the step, and its vertices and ends are kept. -/
structure IsRefined (step : ℝ) (path fine : Path ℝ) : Prop where
  divided : path.IsDivided step fine
  keeps : path.Sublist fine
  first : fine.head? = path.head?
  last : fine.getLast? = path.getLast?
  short : ∀ e ∈ fine.edgeList, e.length ≤ step

theorem isRefined_segmented (path : Path ℝ) (hstep : 0 < step) :
    path.IsRefined step (path.segmented step) where
  divided := isDivided_segmented hstep path
  keeps := sublist_segmented step path
  first := head?_segmented step path
  last := getLast?_segmented step path
  short := length_le_of_mem_segmented hstep path

end Path

/-! ## Shapes and geometries -/

namespace Shape

theorem segmented_of_pos {step : ℝ} (hstep : 0 < step) (s : Shape ℝ) :
    s.segmented step = s.segmentedBy step := by
  unfold segmented
  rw [Exact.numeral_eq, Nat.cast_zero]
  exact if_pos (decide_eq_true hstep)

theorem corresponds_segmented {step : ℝ} (hstep : 0 < step) {s : Shape ℝ} (hs : s.IsSound) :
    Corresponds Eq (fun line fine => fine = line.segmented step)
      (fun ring fine => fine = ring.segmented step ∧ fine.isClosed = true) s.plain
      (s.segmented step) := by
  rw [segmented_of_pos hstep]
  exact corresponds_segmentedBy_of_isClosed step hs.plain.isClosed

theorem kind_plain {α : Type} [BEq α] (s : Shape α) : s.plain.kind = s.kind := by
  cases s <;> rfl

end Shape

namespace Geometry

/-- A positive step refines every line and every ring of a geometry and keeps its structure; any
other step changes nothing. -/
theorem segmented_refines :
    (∀ (g : Geometry ℝ) (step : ℝ), g.shape.IsSound → 0 < step →
      (g.segmented step).crs = g.crs ∧ (g.segmented step).shape.kind = g.shape.kind ∧
        Shape.Corresponds Eq (Path.IsRefined step)
          (fun ring fine => ring.IsRefined step fine ∧ fine.isClosed = true)
          g.shape.plain (g.segmented step).shape) ∧
    ∀ (α : Type) [Elementary α] (g : Geometry α) (step : α),
      ¬(Scalar.isFinite step = true ∧ 0 < step) → g.segmented step = g := by
  constructor
  · intro g step hg hstep
    have hfine := Shape.corresponds_segmented hstep hg
    have hkind : (g.segmented step).shape.kind = g.shape.kind :=
      hfine.kind_eq.symm.trans g.shape.kind_plain
    refine ⟨rfl, hkind, hfine.mono (fun _ _ h => h) ?_ ?_⟩
    · rintro line _ rfl
      exact line.isRefined_segmented hstep
    · rintro ring - _ ⟨rfl, hclosed⟩
      exact ⟨ring.isRefined_segmented hstep, hclosed⟩
  · intro α _ g step hstep
    exact congrArg g.withShape (Shape.segmented_of_not_pos hstep g.shape)

def nestedShapes : Geometry ℝ where
  shape := .collection [.segment ⟨0, 0⟩ ⟨1, 0⟩,
    .collection [.rectangle ⟨0, 0⟩ ⟨2, 1⟩, .polygon ⟨[⟨0, 0⟩, ⟨3, 0⟩, ⟨0, 4⟩, ⟨0, 0⟩], []⟩]]
  crs := none

theorem isSound_nestedShapes : nestedShapes.shape.IsSound := by
  constructor
  · exact fun _ _ => rfl
  · intro ring hring
    rw [List.mem_singleton.1 hring]
    exact Position.beq_self (⟨0, 0⟩ : Position ℝ)

theorem segmented_refines_nested :
    Shape.Corresponds Eq (Path.IsRefined 1)
        (fun ring fine => ring.IsRefined 1 fine ∧ fine.isClosed = true)
        nestedShapes.shape.plain (nestedShapes.segmented 1).shape ∧
      nestedShapes.segmented (0 : ℝ) = nestedShapes :=
  ⟨(segmented_refines.1 nestedShapes 1 isSound_nestedShapes one_pos).2.2,
    segmented_refines.2 ℝ nestedShapes 0 fun h => by simp [Exact.numeral_eq] at h⟩

end Geometry

end

end Graticule
