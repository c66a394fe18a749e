import Graticule.Proofs.Geometry.Segmentation
import Graticule.Proofs.Planar.Region

/-!
# Measures of segmented shapes

Segmentation moves no line, so what is measured of a shape stays: its box, the length of its lines
and the area of its rings.  Length and area are sums over edges of a weight that an edge divides
among its pieces in the ratio of their lengths, `Edge.IsAdditive`.  The box stays since the new
vertices are between old ones, `Path.FillsOut`.

A segmented path has no edge longer than the step, and segmenting it again adds nothing.
-/

namespace Graticule

open scoped Exact

noncomputable section

theorem foldl_add_eq_sum {β : Type} (f : β → ℝ) (l : List β) (start : ℝ) :
    l.foldl (fun sum b => sum + f b) start = start + (l.map f).sum := by
  induction l generalizing start with
  | nil => simp
  | cons b l ih => rw [List.foldl_cons, ih, List.map_cons, List.sum_cons, add_assoc]

theorem foldl_eq_of_forall₂ {β γ δ : Type} {f : δ → β → δ} {g : δ → γ → δ} {l : List β}
    {m : List γ} (h : List.Forall₂ (fun b c => ∀ d, f d b = g d c) l m) (start : δ) :
    l.foldl f start = m.foldl g start := by
  induction h generalizing start with
  | nil => rfl
  | cons hbc _ ih => rw [List.foldl_cons, List.foldl_cons, hbc, ih]

namespace Edge

/-! ## Additive weights -/

/-- A part of an edge has as large a part of the weight. -/
def IsAdditive (weight : Edge ℝ → ℝ) : Prop :=
  ∀ (e : Edge ℝ) (s t : ℝ), s ≤ t → weight ⟨e.divide s, e.divide t⟩ = (t - s) * weight e

theorem isAdditive_length : IsAdditive length := by
  intro e s t hst
  rw [length_divide, abs_of_nonneg (sub_nonneg.2 hst)]

/-- Twice the area of the triangle from a point to the ends of an edge. -/
def areaFrom (p : Position ℝ) (e : Edge ℝ) : ℝ := (e.start.minus p).cross (e.stop.minus p)

theorem isAdditive_areaFrom (p : Position ℝ) : IsAdditive (areaFrom p) := by
  intro e s t _
  simp only [areaFrom, divide, Position.cross, Position.minus]
  ring

section

variable {weight : Edge ℝ → ℝ} {step : ℝ}

theorem sum_stations (hweight : IsAdditive weight) (hstep : 0 < step) (e : Edge ℝ) (n : ℕ) :
    ((List.range n).map fun k => weight ⟨e.station step k, e.station step (k + 1)⟩).sum =
      n * step / e.length * weight e := by
  induction n with
  | zero => simp
  | succ n ih =>
    have hnext : n * step / e.length ≤ ((n + 1 : ℕ) : ℝ) * step / e.length := by
      have := e.length_nonneg
      gcongr
      exact Nat.le_succ n
    have hlast : weight ⟨e.station step n, e.station step (n + 1)⟩ =
        (((n + 1 : ℕ) : ℝ) * step / e.length - n * step / e.length) * weight e :=
      hweight e _ _ hnext
    rw [List.range_succ, List.map_append, List.sum_append, ih, List.map_singleton,
      List.sum_singleton, hlast]
    ring

/-- The weights of the pieces make up that of the edge. -/
theorem sum_edgeList_segmented_path (hweight : IsAdditive weight) (hstep : 0 < step)
    (e : Edge ℝ) : ((Path.edgeList (e.path.segmented step)).map weight).sum = weight e := by
  have hreach : stationCount step e.length * step / e.length ≤ 1 :=
    div_le_one_of_le₀ (stationCount_mul_le hstep e.length_nonneg) e.length_nonneg
  have hlast : weight ⟨e.station step (stationCount step e.length), e.stop⟩ =
      (1 - stationCount step e.length * step / e.length) * weight e := by
    have hpart := hweight e _ _ hreach
    rwa [divide_one] at hpart
  rw [edgeList_segmented_path hstep, List.map_append, List.sum_append, List.map_map,
    List.map_singleton, List.sum_singleton, hlast]
  exact (congrArg (· + _) (sum_stations hweight hstep e _)).trans (by ring)

end

end Edge

namespace Path

def total (weight : Edge ℝ → ℝ) (path : Path ℝ) : ℝ := (path.edgeList.map weight).sum

theorem total_singleton (weight : Edge ℝ → ℝ) (p : Position ℝ) : total weight [p] = 0 := rfl

theorem total_cons_cons (weight : Edge ℝ → ℝ) (p q : Position ℝ) (path : Path ℝ) :
    total weight (p :: q :: path) = weight ⟨p, q⟩ + total weight (q :: path) := rfl

theorem total_segmented {weight : Edge ℝ → ℝ} (hweight : Edge.IsAdditive weight) {step : ℝ}
    (hstep : 0 < step) (path : Path ℝ) :
    total weight (path.segmented step) = total weight path := by
  unfold total
  rw [edgeList_segmented, List.map_flatMap]
  generalize path.edgeList = es
  induction es with
  | nil => rfl
  | cons e es ih =>
    rw [List.flatMap_cons, List.sum_append, ih, Edge.sum_edgeList_segmented_path hweight hstep,
      List.map_cons, List.sum_cons]

/-! ## Length and area -/

theorem total_eq_foldl (weight : Edge ℝ → ℝ) (path : Path ℝ) :
    total weight path = path.edges.foldl (fun sum (a, b) => sum + weight ⟨a, b⟩) 0 := by
  have hsum := foldl_add_eq_sum (fun (a, b) => weight ⟨a, b⟩) path.edges 0
  rw [zero_add] at hsum
  unfold total edgeList
  rw [List.map_map]
  exact hsum.symm

theorem lineLength_eq_total (path : Path ℝ) : path.lineLength = total Edge.length path := by
  rw [total_eq_foldl]
  unfold lineLength
  rw [Exact.numeral_eq, Nat.cast_zero]
  rfl

theorem lineLength_segmented (path : Path ℝ) {step : ℝ} (hstep : 0 < step) :
    lineLength (path.segmented step) = path.lineLength := by
  rw [lineLength_eq_total, total_segmented Edge.isAdditive_length hstep, ← lineLength_eq_total]

/-- Around a closed ring the triangles from its first vertex make up the area. -/
theorem doubleArea_eq_total {p : Position ℝ} {path : Path ℝ}
    (h : isClosed (p :: path) = true) :
    doubleArea (p :: path) = total (Edge.areaFrom p) (p :: path) := by
  cases path with
  | nil => exact Nat.cast_zero
  | cons q path =>
    cases path with
    | nil =>
      -- a closed path of two vertices goes nowhere
      obtain rfl : p = q := Position.eq_of_beq h
      have hflat : Edge.areaFrom p ⟨p, p⟩ = 0 := by
        simp [Edge.areaFrom, Position.cross, Position.minus]
      rw [total_cons_cons, total_singleton, hflat, add_zero]
      exact Nat.cast_zero
    | cons r path =>
      rw [total_eq_foldl]
      refine (if_pos h).trans ?_
      rw [Exact.numeral_eq, Nat.cast_zero]
      rfl

theorem signedArea_eq_total {p : Position ℝ} {path : Path ℝ} (h : isClosed (p :: path) = true) :
    signedArea (p :: path) = total (Edge.areaFrom p) (p :: path) / 2 := by
  unfold signedArea
  rw [doubleArea_eq_total h]

theorem signedArea_segmented {step : ℝ} (hstep : 0 < step) {ring : Path ℝ}
    (hring : ring.isClosed = true) : signedArea (ring.segmented step) = ring.signedArea := by
  cases ring with
  | nil => rfl
  | cons p path =>
    obtain ⟨rest, hrest⟩ : ∃ rest, segmented step (p :: path) = p :: rest :=
      List.head?_eq_some_iff.1 (head?_segmented step (p :: path))
    have hclosed := hring
    rw [← isClosed_segmented step, hrest] at hclosed
    rw [hrest, signedArea_eq_total hclosed, ← hrest,
      total_segmented (Edge.isAdditive_areaFrom p) hstep, signedArea_eq_total hring]

/-! ## The box -/

/-- In one coordinate every vertex of the second path is between two vertices of the first. -/
def Bounds (coordinate : Position ℝ → ℝ) (path fine : Path ℝ) : Prop :=
  ∀ p ∈ fine, ∃ a ∈ path, ∃ b ∈ path, coordinate a ≤ coordinate p ∧ coordinate p ≤ coordinate b

/-- The second path has the vertices of the first and beside them only such as do not reach out. -/
structure FillsOut (path fine : Path ℝ) : Prop where
  keeps : path ⊆ fine
  abscissas : Bounds (·.x) path fine
  ordinates : Bounds (·.y) path fine

theorem Bounds.append {coordinate : Position ℝ → ℝ} {path fine path' fine' : Path ℝ}
    (h : Bounds coordinate path fine) (h' : Bounds coordinate path' fine') :
    Bounds coordinate (path ++ path') (fine ++ fine') := by
  intro p hmem
  rcases List.mem_append.1 hmem with hmem | hmem
  · obtain ⟨a, ha, b, hb, hbetween⟩ := h p hmem
    exact ⟨a, List.mem_append_left _ ha, b, List.mem_append_left _ hb, hbetween⟩
  · obtain ⟨a, ha, b, hb, hbetween⟩ := h' p hmem
    exact ⟨a, List.mem_append_right _ ha, b, List.mem_append_right _ hb, hbetween⟩

theorem FillsOut.append {path fine path' fine' : Path ℝ} (h : FillsOut path fine)
    (h' : FillsOut path' fine') : FillsOut (path ++ path') (fine ++ fine') where
  keeps := List.append_subset.2
    ⟨List.subset_append_of_subset_left _ h.keeps, List.subset_append_of_subset_right _ h'.keeps⟩
  abscissas := h.abscissas.append h'.abscissas
  ordinates := h.ordinates.append h'.ordinates

theorem FillsOut.flatten {paths fines : List (Path ℝ)} (h : List.Forall₂ FillsOut paths fines) :
    FillsOut paths.flatten fines.flatten := by
  induction h with
  | nil => exact ⟨List.Subset.refl _, nofun, nofun⟩
  | cons hpath _ ih => exact hpath.append ih

/-- Of two lists each of which has a value below every value of the other the least are equal. -/
theorem foldl_min_eq {β α : Type} [LinearOrder α] {f : β → α} {bs cs : List β} {b c : β}
    (h : ∀ v ∈ b :: bs, ∃ w ∈ c :: cs, f w ≤ f v) (h' : ∀ w ∈ c :: cs, ∃ v ∈ b :: bs, f v ≤ f w) :
    (bs.map f).foldl min (f b) = (cs.map f).foldl min (f c) := by
  have hb := isLeast_foldl_min (f b) (bs.map f)
  have hc := isLeast_foldl_min (f c) (cs.map f)
  rw [← List.map_cons] at hb hc
  apply le_antisymm
  · obtain ⟨w, hw, hleast⟩ := List.mem_map.1 hc.1
    obtain ⟨v, hv, hle⟩ := h' w hw
    exact (hb.2 (List.mem_map_of_mem hv)).trans (hle.trans_eq hleast)
  · obtain ⟨v, hv, hleast⟩ := List.mem_map.1 hb.1
    obtain ⟨w, hw, hle⟩ := h v hv
    exact (hc.2 (List.mem_map_of_mem hw)).trans (hle.trans_eq hleast)

theorem foldl_max_eq {β α : Type} [LinearOrder α] {f : β → α} {bs cs : List β} {b c : β}
    (h : ∀ v ∈ b :: bs, ∃ w ∈ c :: cs, f v ≤ f w) (h' : ∀ w ∈ c :: cs, ∃ v ∈ b :: bs, f w ≤ f v) :
    (bs.map f).foldl max (f b) = (cs.map f).foldl max (f c) :=
  foldl_min_eq (α := αᵒᵈ) h h'

/-- A coordinate has the same extremes over both paths. -/
theorem Bounds.extremes_eq {coordinate : Position ℝ → ℝ} {p q : Position ℝ} {path fine : Path ℝ}
    (h : Bounds coordinate (q :: path) (p :: fine)) (hkeeps : q :: path ⊆ p :: fine) :
    (fine.map coordinate).foldl min (coordinate p) =
        (path.map coordinate).foldl min (coordinate q) ∧
      (fine.map coordinate).foldl max (coordinate p) =
        (path.map coordinate).foldl max (coordinate q) := by
  constructor
  · refine foldl_min_eq (fun v hv => ?_) fun w hw => ⟨w, hkeeps hw, le_rfl⟩
    obtain ⟨a, ha, -, -, hlow, -⟩ := h v hv
    exact ⟨a, ha, hlow⟩
  · refine foldl_max_eq (fun v hv => ?_) fun w hw => ⟨w, hkeeps hw, le_rfl⟩
    obtain ⟨-, -, b, hb, -, hhigh⟩ := h v hv
    exact ⟨b, hb, hhigh⟩

theorem FillsOut.box?_eq {path fine : Path ℝ} (h : FillsOut path fine) : fine.box? = path.box? := by
  cases fine with
  | nil => rw [List.subset_nil.1 h.keeps]
  | cons p fine =>
    cases path with
    | nil =>
      obtain ⟨q, hq, -⟩ := h.abscissas p List.mem_cons_self
      cases hq
    | cons q path =>
      obtain ⟨hleft, hright⟩ := h.abscissas.extremes_eq h.keeps
      obtain ⟨hbottom, htop⟩ := h.ordinates.extremes_eq h.keeps
      rw [box?_cons, box?_cons, hleft, hbottom, hright, htop]

/-- A vertex of a divided path is between vertices of the path. -/
theorem IsDivided.exists_between {step : ℝ} {path fine : Path ℝ} (h : path.IsDivided step fine) :
    ∀ p ∈ fine, ∃ a ∈ path, ∃ b ∈ path, Edge.passes ⟨a, b⟩ p = true := by
  induction h with
  | nil => simp
  | single q =>
    intro p hp
    rw [List.mem_singleton.1 hp]
    exact ⟨q, List.mem_cons_self, q, List.mem_cons_self, Edge.passes_start _⟩
  | @edge a b added path fine hedge _ ih =>
    have ha : a ∈ a :: b :: path := List.mem_cons_self
    have hb : b ∈ a :: b :: path := List.mem_cons_of_mem a List.mem_cons_self
    intro p hp
    rcases List.mem_cons.1 hp with rfl | hp
    · exact ⟨p, ha, b, hb, Edge.passes_start _⟩
    rcases List.mem_append.1 hp with hp | hp
    · obtain ⟨k, hk⟩ := List.mem_iff_getElem?.1 hp
      exact ⟨a, ha, b, hb, (hedge.place k p hk).1⟩
    · obtain ⟨c, hc, d, hd, hpass⟩ := ih p hp
      exact ⟨c, List.mem_cons_of_mem a hc, d, List.mem_cons_of_mem a hd, hpass⟩

theorem fillsOut_segmented {step : ℝ} (hstep : 0 < step) (path : Path ℝ) :
    path.FillsOut (path.segmented step) := by
  have hbounds {coordinate : Position ℝ → ℝ} (h : ∀ {a b p : Position ℝ},
      Edge.passes ⟨a, b⟩ p = true →
        min (coordinate a) (coordinate b) ≤ coordinate p ∧
          coordinate p ≤ max (coordinate a) (coordinate b)) :
      Bounds coordinate path (path.segmented step) := by
    intro p hp
    obtain ⟨a, ha, b, hb, hpass⟩ := (isDivided_segmented hstep path).exists_between p hp
    obtain ⟨hlow, hhigh⟩ := h hpass
    rcases le_total (coordinate a) (coordinate b) with hab | hba
    · exact ⟨a, ha, b, hb, min_eq_left hab ▸ hlow, max_eq_right hab ▸ hhigh⟩
    · exact ⟨b, hb, a, ha, min_eq_right hba ▸ hlow, max_eq_left hba ▸ hhigh⟩
  constructor
  · exact (sublist_segmented step path).subset
  · exact hbounds fun hpass => ((Edge.passes_iff _ _).1 hpass).2.1
  · exact hbounds fun hpass => ((Edge.passes_iff _ _).1 hpass).2.2

/-! ## Segmenting again -/

/-- Where no edge is longer than the step nothing is added. -/
theorem segmented_eq_self {step : ℝ} (hstep : 0 < step) {path : Path ℝ}
    (h : ∀ e ∈ path.edgeList, e.length ≤ step) : path.segmented step = path := by
  induction path with
  | nil => rfl
  | cons p path ih =>
    cases path with
    | nil => rfl
    | cons q path =>
      rw [edgeList_cons_cons, List.forall_mem_cons] at h
      have hnone : Edge.stationCount step (Edge.length ⟨p, q⟩) = 0 := by
        refine Nat.eq_zero_of_not_pos fun hpos => ?_
        have hlong := (Edge.lt_stationCount_iff hstep 0).1 hpos
        rw [Nat.cast_zero, zero_add, one_mul] at hlong
        exact hlong.not_ge h.1
      have hadded : stationsBetween step p q = [] := by
        rw [Edge.stationsBetween_eq hstep ⟨p, q⟩, hnone]
        rfl
      rw [segmented_cons_cons, hadded, ih h.2]
      rfl

theorem segmented_segmented (path : Path ℝ) {step : ℝ} (hstep : 0 < step) :
    segmented step (path.segmented step) = path.segmented step :=
  segmented_eq_self hstep (length_le_of_mem_segmented hstep path)

end Path

/-! ## Shapes of equal measures -/

namespace Polygon

theorem eq_of_rings_eq {p q : Polygon ℝ} (h : p.rings = q.rings) : p = q := by
  obtain ⟨hexterior, hholes⟩ := List.cons.inj h
  cases p
  cases q
  rw [mk.injEq]
  exact ⟨hexterior, hholes⟩

theorem mapRings_eq_self {f : Path ℝ → Path ℝ} {p : Polygon ℝ}
    (h : ∀ ring ∈ p.rings, Path.close (f ring) = ring) : p.mapRings f = p := by
  apply eq_of_rings_eq
  rw [rings_mapRings, List.map_congr_left h]
  exact List.map_id _

end Polygon

namespace Shape

section

variable {vertex : Position ℝ → Position ℝ → Prop} {line ring : Path ℝ → Path ℝ → Prop} {step : ℝ}

mutual

theorem Corresponds.segmentedBy_eq_self (hline : ∀ a b, line a b → b.segmented step = b)
    (hring : ∀ a b, ring a b → Path.close (b.segmented step) = b) :
    ∀ {s t : Shape ℝ}, Corresponds vertex line ring s t → t.segmentedBy step = t
  | _, .point _, _ => rfl
  | _, .multiPoint _, _ => rfl
  | _, .lineString _, .lineString h => congrArg lineString (hline _ _ h)
  | _, .multiLineString _, .multiLineString h => by
    have hpaths := forall_mem_right_of_forall₂ h fun a _ => hline a
    exact congrArg multiLineString ((List.map_congr_left hpaths).trans (List.map_id _))
  | _, .polygon _, .polygon h => congrArg polygon
    (Polygon.mapRings_eq_self (forall_mem_right_of_forall₂ h fun a _ => hring a))
  | _, .multiPolygon ps, .multiPolygon h => by
    have hpolygons : ∀ p ∈ ps, p.mapRings (Path.segmented step) = p :=
      forall_mem_right_of_forall₂ h fun _ _ _ hrings =>
        Polygon.mapRings_eq_self (forall_mem_right_of_forall₂ hrings fun a _ => hring a)
    exact congrArg multiPolygon ((List.map_congr_left hpolygons).trans (List.map_id _))
  | _, .collection _, .collection h =>
    congrArg collection (segmentedMembers_eq_self hline hring h)

theorem segmentedMembers_eq_self (hline : ∀ a b, line a b → b.segmented step = b)
    (hring : ∀ a b, ring a b → Path.close (b.segmented step) = b) :
    ∀ {ss ts : List (Shape ℝ)}, List.Forall₂ (Corresponds vertex line ring) ss ts →
      segmentedMembers step ts = ts
  | [], [], .nil => rfl
  | _ :: _, _ :: _, .cons h hs => congrArg₂ List.cons (h.segmentedBy_eq_self hline hring)
    (segmentedMembers_eq_self hline hring hs)

end

mutual

/-- Shapes whose lines and rings fill out one another have the same box. -/
theorem Corresponds.box?_eq : ∀ {s t : Shape ℝ},
    Corresponds Eq Path.FillsOut Path.FillsOut s t → t.box? = s.box?
  | .point _, _, .point h => by rw [h]
  | .multiPoint _, _, .multiPoint h => by
    rw [List.forall₂_eq_eq_eq] at h
    rw [h]
  | .lineString _, _, .lineString h => h.box?_eq
  | .multiLineString _, _, .multiLineString h => (Path.FillsOut.flatten h).box?_eq
  | .polygon _, _, .polygon h => (List.forall₂_cons.1 h).1.box?_eq
  | .multiPolygon _, _, .multiPolygon h => by
    have hexteriors : List.Forall₂ Path.FillsOut _ _ := List.forall₂_map_left_iff.2
      (List.forall₂_map_right_iff.2 (h.imp fun _ _ hpq => (List.forall₂_cons.1 hpq).1))
    exact (Path.FillsOut.flatten hexteriors).box?_eq
  | .collection _, _, .collection h => joinedBox?_eq h none

theorem joinedBox?_eq : ∀ {ss ts : List (Shape ℝ)},
    List.Forall₂ (Corresponds Eq Path.FillsOut Path.FillsOut) ss ts → ∀ around,
      joinedBox? around ts = joinedBox? around ss
  | [], [], .nil, _ => rfl
  | _ :: _, _ :: _, .cons h hs, around => by
    unfold joinedBox?
    rw [h.box?_eq, joinedBox?_eq hs]

end

theorem area_eq_of_forall₂_rings {p q : Polygon ℝ}
    (h : List.Forall₂ (fun a b : Path ℝ => b.signedArea = a.signedArea) p.rings q.rings) :
    q.area = p.area := by
  obtain ⟨hexterior, hholes⟩ := List.forall₂_cons.1 h
  unfold Polygon.area
  rw [hexterior]
  exact congrArg _ (foldl_eq_of_forall₂ (hholes.flip.imp fun b a hab d => by rw [hab]) _)

mutual

/-- Shapes whose rings have the same areas have the same area. -/
theorem Corresponds.area_eq : ∀ {s t : Shape ℝ},
    Corresponds vertex line (fun a b => b.signedArea = a.signedArea) s t → t.area = s.area
  | .point _, _, .point _ => rfl
  | .multiPoint _, _, .multiPoint _ => rfl
  | .lineString _, _, .lineString _ => rfl
  | .multiLineString _, _, .multiLineString _ => rfl
  | .polygon _, _, .polygon h => area_eq_of_forall₂_rings h
  | .multiPolygon _, _, .multiPolygon h => by
    have hareas := h.imp fun p q hpq (sum : ℝ) =>
      congrArg (sum + ·) (area_eq_of_forall₂_rings hpq).symm
    exact (foldl_eq_of_forall₂ hareas _).symm
  | .collection _, _, .collection h => totalArea_eq h _

theorem totalArea_eq : ∀ {ss ts : List (Shape ℝ)},
    List.Forall₂ (Corresponds vertex line fun a b => b.signedArea = a.signedArea) ss ts →
      ∀ sum, totalArea sum ts = totalArea sum ss
  | [], [], .nil, _ => rfl
  | _ :: _, _ :: _, .cons h hs, sum => by
    unfold totalArea
    rw [h.area_eq, totalArea_eq hs]

end

end

/-! ## Rectangles and triangles as polygons -/

mutual

/-- The corners of the rectangles are the lower left and the upper right one. -/
def IsUpright : Shape ℝ → Prop
  | rectangle low high => low.x ≤ high.x ∧ low.y ≤ high.y
  | collection members => AreUpright members
  | _ => True

def AreUpright : List (Shape ℝ) → Prop
  | [] => True
  | s :: ss => s.IsUpright ∧ AreUpright ss

end

theorem box?_rectanglePolygon {low high : Position ℝ} (h : low.x ≤ high.x ∧ low.y ≤ high.y) :
    (rectanglePolygon low high).exterior.box? = some ⟨low.x, low.y, high.x, high.y⟩ := by
  rw [exterior_rectanglePolygon, Path.box?_cons]
  simp [h.1, h.2]

theorem area_rectanglePolygon {low high : Position ℝ} (h : low.x ≤ high.x ∧ low.y ≤ high.y) :
    (rectanglePolygon low high).area = (high.x - low.x) * (high.y - low.y) := by
  have hsides : 0 ≤ (high.x - low.x) * (high.y - low.y) :=
    mul_nonneg (sub_nonneg.2 h.1) (sub_nonneg.2 h.2)
  have hring : (rectanglePolygon low high).exterior.signedArea =
      (high.x - low.x) * (high.y - low.y) := by
    rw [exterior_rectanglePolygon, Path.signedArea_eq_total]
    · simp only [Path.total_cons_cons, Path.total_singleton, Edge.areaFrom, Position.cross,
        Position.minus, Exact.numeral_eq]
      ring
    · exact Position.beq_self (⟨high.x, low.y⟩ : Position ℝ)
  calc (rectanglePolygon low high).area
      = |(|(rectanglePolygon low high).exterior.signedArea|)| := rfl
    _ = (high.x - low.x) * (high.y - low.y) := by rw [hring, abs_abs, abs_of_nonneg hsides]

theorem exterior_trianglePolygon (a b c : Position ℝ) :
    (trianglePolygon a b c).exterior = [a, b, c, a] := by
  have hclosed : Path.isClosed [a, b, c, a] = true := Position.beq_self a
  exact Path.close_of_isClosed hclosed

theorem box?_trianglePolygon (a b c : Position ℝ) :
    (trianglePolygon a b c).exterior.box? = Path.box? [a, b, c] := by
  rw [exterior_trianglePolygon, Path.box?_cons, Path.box?_cons]
  simp

theorem area_trianglePolygon (a b c : Position ℝ) :
    (trianglePolygon a b c).area = (triangle a b c).area := by
  have hring : (trianglePolygon a b c).exterior.signedArea =
      (a.cross b + b.cross c + c.cross a) / 2 := by
    rw [exterior_trianglePolygon, Path.signedArea_eq_total]
    · simp only [Path.total_cons_cons, Path.total_singleton, Edge.areaFrom, Position.cross,
        Position.minus]
      ring
    · exact Position.beq_self a
  calc (trianglePolygon a b c).area
      = |(|(trianglePolygon a b c).exterior.signedArea|)| := rfl
    _ = |(a.cross b + b.cross c + c.cross a) / 2| := by rw [hring, abs_abs]

mutual

theorem box?_plain : ∀ {s : Shape ℝ}, s.IsUpright → s.plain.box? = s.box?
  | .point _, _ => rfl
  | .multiPoint _, _ => rfl
  | .segment _ _, _ => rfl
  | .lineString _, _ => rfl
  | .multiLineString _, _ => rfl
  | .polygon _, _ => rfl
  | .rectangle _ _, h => box?_rectanglePolygon h
  | .triangle a b c, _ => box?_trianglePolygon a b c
  | .multiPolygon _, _ => rfl
  | .collection _, h => joinedBox?_plainMembers h none

theorem joinedBox?_plainMembers : ∀ {ss : List (Shape ℝ)}, AreUpright ss → ∀ around,
    joinedBox? around (plainMembers ss) = joinedBox? around ss
  | [], _, _ => rfl
  | _ :: _, h, around => by
    unfold plainMembers joinedBox?
    rw [box?_plain h.1, joinedBox?_plainMembers h.2]

end

mutual

theorem area_plain : ∀ {s : Shape ℝ}, s.IsUpright → s.plain.area = s.area
  | .point _, _ => rfl
  | .multiPoint _, _ => rfl
  | .segment _ _, _ => rfl
  | .lineString _, _ => rfl
  | .multiLineString _, _ => rfl
  | .polygon _, _ => rfl
  | .rectangle _ _, h => area_rectanglePolygon h
  | .triangle a b c, _ => area_trianglePolygon a b c
  | .multiPolygon _, _ => rfl
  | .collection _, h => totalArea_plainMembers h _

theorem totalArea_plainMembers : ∀ {ss : List (Shape ℝ)}, AreUpright ss → ∀ sum,
    totalArea sum (plainMembers ss) = totalArea sum ss
  | [], _, _ => rfl
  | _ :: _, h, sum => by
    unfold plainMembers totalArea
    rw [area_plain h.1, totalArea_plainMembers h.2]

end

end Shape

namespace Geometry

/-- Segmentation keeps the envelope, the length of every line, the area of every ring and that of
the whole; and done twice it does what it does once. -/
theorem segmented_keeps_measures {g : Geometry ℝ} (hsound : g.shape.IsSound)
    (hupright : g.shape.IsUpright) {step : ℝ} (hstep : 0 < step) :
    (g.segmented step).envelope = g.envelope ∧
      Shape.Corresponds Eq (fun line fine => fine.lineLength = line.lineLength)
        (fun ring fine => fine.signedArea = ring.signedArea) g.shape.plain
        (g.segmented step).shape ∧
      (g.segmented step).shape.area = g.shape.area ∧
      (g.segmented step).segmented step = g.segmented step := by
  have hfine := Shape.corresponds_segmented hstep hsound
  have hclosed : ∀ ring ∈ g.shape.plain.rings, Path.isClosed ring = true := hsound.plain.isClosed
  have hmeasures : Shape.Corresponds Eq (fun line fine => fine.lineLength = line.lineLength)
      (fun ring fine => fine.signedArea = ring.signedArea) g.shape.plain
      (g.segmented step).shape := by
    refine hfine.mono (fun _ _ h => h) ?_ ?_
    · rintro line _ rfl
      exact line.lineLength_segmented hstep
    · rintro ring hring _ ⟨rfl, -⟩
      exact Path.signedArea_segmented hstep (hclosed ring hring)
  have hfills : Shape.Corresponds Eq Path.FillsOut Path.FillsOut g.shape.plain
      (g.segmented step).shape := by
    refine hfine.mono (fun _ _ h => h) ?_ ?_
    · rintro line _ rfl
      exact Path.fillsOut_segmented hstep line
    · rintro ring - _ ⟨rfl, -⟩
      exact Path.fillsOut_segmented hstep ring
  have hbox : (g.segmented step).shape.box? = g.shape.box? :=
    hfills.box?_eq.trans (Shape.box?_plain hupright)
  have hagain : (g.segmented step).shape.segmented step = (g.segmented step).shape := by
    rw [Shape.segmented_of_pos hstep]
    refine hfine.segmentedBy_eq_self ?_ ?_
    · rintro line _ rfl
      exact line.segmented_segmented hstep
    · rintro ring _ ⟨rfl, hring⟩
      rw [Path.segmented_segmented _ hstep, Path.close_of_isClosed hring]
  refine ⟨?_, hmeasures, hmeasures.area_eq.trans (Shape.area_plain hupright), ?_⟩
  · unfold envelope
    rw [hbox]
  · exact congrArg g.withShape hagain

theorem segmented_keeps_measures_nested :
    (nestedShapes.segmented 1).envelope = nestedShapes.envelope ∧
      (nestedShapes.segmented 1).shape.area = nestedShapes.shape.area ∧
      (nestedShapes.segmented 1).segmented 1 = nestedShapes.segmented 1 := by
  have hrectangle : (0 : ℝ) ≤ 2 ∧ (0 : ℝ) ≤ 1 := by
    rw [Exact.numeral_eq]
    exact ⟨Nat.cast_nonneg 2, zero_le_one⟩
  have hupright : nestedShapes.shape.IsUpright :=
    ⟨trivial, ⟨hrectangle, trivial, trivial⟩, trivial⟩
  obtain ⟨henvelope, -, harea, hagain⟩ :=
    segmented_keeps_measures isSound_nestedShapes hupright one_pos
  exact ⟨henvelope, harea, hagain⟩

end Geometry

end

end Graticule
