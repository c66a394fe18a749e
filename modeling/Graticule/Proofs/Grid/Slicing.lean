import Graticule.Grid.Labels
import Graticule.Proofs.Grid.Window

/-!
# Selections as slices of the labels

A list is sliced by two bounds, of which a negative one counts from the end and either may be
absent; a bound outside of the list stands for the nearer end.  `Span.slice` says so without the
axis of a grid, and `Span.entry?` picks the entry at one index.

Over exact scalars a grid cropped to rows and columns has the labels of the whole grid, sliced along
each axis: `Grid.crop_slices_labels`.  The bounds are to lie within a length of zero, because a
selection beyond the grid goes on where a slice of a list ends.
-/

namespace Graticule

namespace Span

variable {β : Type}

/-- The place that a bound marks in a list; one outside of the list marks its nearer end. -/
def place (length : ℕ) (i : ℤ) : ℕ := if i < 0 then length - i.natAbs else min i.toNat length

def first (s : Span) (length : ℕ) : ℕ := (s.start.map (place length)).getD 0

def last (s : Span) (length : ℕ) : ℕ := (s.stop.map (place length)).getD length

/-- The entries of a list between the bounds of a span, in order. -/
def slice (s : Span) (xs : List β) : List β := (xs.take (s.last xs.length)).drop (s.first xs.length)

/-- The entry of a list at an index; a negative index counts from the end. -/
def entry? (xs : List β) (i : ℤ) : Option β :=
  if i < 0 then xs.reverse[i.natAbs - 1]? else xs[i.toNat]?

structure IsWithin (s : Span) (length : ℕ) : Prop where
  start : ∀ i ∈ s.start, -length ≤ i ∧ i ≤ length
  stop : ∀ i ∈ s.stop, -length ≤ i ∧ i ≤ length

theorem place_le (length : ℕ) (i : ℤ) : place length i ≤ length := by
  unfold place
  split_ifs <;> omega

theorem last_le (s : Span) (length : ℕ) : s.last length ≤ length := by
  unfold last
  cases s.stop with
  | none => exact le_rfl
  | some i => exact place_le length i

theorem fromStart_eq_place {length : ℕ} {i : ℤ} (hi : -length ≤ i ∧ i ≤ length) :
    fromStart length i = place length i := by
  unfold fromStart place
  split_ifs <;> omega

/-- The selected indices are the places of the slice. -/
theorem resolve_of_isWithin {α : Type} {s : Span} {length : ℕ} (hs : s.IsContiguous)
    (h : s.IsWithin length) :
    (s.resolve length : Except (Error α) (ℤ × ℕ)) =
      .ok (s.first length, s.last length - s.first length) := by
  have hfirst : (s.start.map (fromStart length)).getD 0 = (s.first length : ℤ) := by
    unfold first
    cases hstart : s.start with
    | none => rfl
    | some i => exact fromStart_eq_place (h.start i hstart)
  have hlast : (s.stop.map (fromStart length)).getD length = (s.last length : ℤ) := by
    unfold last
    cases hstop : s.stop with
    | none => rfl
    | some i => exact fromStart_eq_place (h.stop i hstop)
  rw [resolve_of_isContiguous hs, hfirst, hlast, Int.toNat_sub]

theorem exists_resolve_eq_error {α : Type} {s : Span} (hs : ¬s.IsContiguous) (length : ℕ) :
    ∃ step, (s.resolve length : Except (Error α) (ℤ × ℕ)) = .error (.stepped step) := by
  have hstep : s.step.getD 1 ≠ 1 := by
    intro heq
    apply hs
    cases hstep : s.step with
    | none => exact Or.inl hstep
    | some step =>
      rw [hstep, Option.getD_some] at heq
      exact Or.inr (heq ▸ hstep)
  refine ⟨s.step.getD 1, ?_⟩
  unfold resolve
  simp only [hstep, if_false]

/-! ## A single index -/

theorem isContiguous_ofIndex (i : ℤ) : (ofIndex i).IsContiguous := Or.inl rfl

theorem isWithin_ofIndex {length : ℕ} {i : ℤ} (hlow : -length ≤ i) (hhigh : i < length) :
    (ofIndex i).IsWithin length := by
  constructor
  · rintro _ ⟨⟩
    omega
  · intro j hj
    unfold ofIndex at hj
    split_ifs at hj with hlast
    · cases hj
    · cases hj
      omega

/-- An index marks one place, before which nothing of the slice comes and after which it ends. -/
theorem first_last_ofIndex {length : ℕ} {i : ℤ} (hlow : -length ≤ i) (hhigh : i < length) :
    (ofIndex i).first length = place length i ∧
      (ofIndex i).last length = place length i + 1 := by
  refine ⟨rfl, ?_⟩
  unfold last ofIndex
  by_cases hlast : i = -1
  · subst hlast
    simp only [if_true, Option.map_none, Option.getD_none, place]
    rw [if_pos (by omega)]
    omega
  · simp only [hlast, if_false, Option.map_some, Option.getD_some, place]
    split_ifs <;> omega

theorem entry?_eq_getElem? {xs : List β} {i : ℤ} (hlow : -xs.length ≤ i) (hhigh : i < xs.length) :
    entry? xs i = xs[place xs.length i]? := by
  unfold entry? place
  split_ifs with hneg
  · rw [List.getElem?_reverse (by omega)]
    congr 1
    omega
  · rw [min_eq_left (by omega)]

theorem exists_slice_ofIndex {xs : List β} {i : ℤ} (hlow : -xs.length ≤ i)
    (hhigh : i < xs.length) : ∃ x, entry? xs i = some x ∧ (ofIndex i).slice xs = [x] := by
  obtain ⟨hfirst, hlast⟩ := first_last_ofIndex hlow hhigh
  have hplace : place xs.length i < xs.length := by
    unfold place
    split_ifs <;> omega
  refine ⟨xs[place xs.length i], ?_, ?_⟩
  · rw [entry?_eq_getElem? hlow hhigh, List.getElem?_eq_getElem hplace]
  · unfold slice
    rw [hfirst, hlast, List.take_succ_eq_append_getElem hplace]
    exact List.drop_left' (List.length_take_of_le hplace.le)

end Span

namespace Axis

variable {α : Type}

def slice (a : Axis α) (s : Span) : Axis α := { a with labels := s.slice a.labels }

theorem exists_slice_ofIndex (a : Axis α) {length : ℕ} (ha : a.labels.length = length) {i : ℤ}
    (hlow : -length ≤ i) (hhigh : i < length) :
    (Span.ofIndex i).IsContiguous ∧ (Span.ofIndex i).IsWithin length ∧
      ∃ label, Span.entry? a.labels i = some label ∧
        a.slice (.ofIndex i) = { a with labels := [label] } := by
  subst ha
  obtain ⟨label, hentry, hslice⟩ := Span.exists_slice_ofIndex hlow hhigh
  refine ⟨Span.isContiguous_ofIndex i, Span.isWithin_ofIndex hlow hhigh, label, hentry, ?_⟩
  rw [slice, hslice]

end Axis

namespace Grid

open scoped Exact

variable {K : Type} [Field K] [LinearOrder K] [FloorRing K]

@[simp] theorem length_centres (n : ℕ) (off res : K) : (centres n off res).length = n := by
  simp [centres]

/-- Pixels that start some pixels later have the labels from there on. -/
theorem drop_take_centres {n stop : ℕ} (hstop : stop ≤ n) (start : ℕ) (off res : K) :
    ((centres n off res).take stop).drop start =
      centres (stop - start) (res * start + off) res := by
  apply List.ext_getElem
  · simp [hstop]
  · intro i hi hi'
    simp only [centres, List.getElem_drop, List.getElem_take, List.getElem_map,
      List.getElem_range, Exact.ofNat_eq]
    push_cast
    ring

theorem slice_centres (s : Span) (n : ℕ) (off res : K) :
    s.slice (centres n off res) =
      centres (s.last n - s.first n) (res * s.first n + off) res := by
  unfold Span.slice
  rw [length_centres]
  exact drop_take_centres (s.last_le n) _ _ _

theorem labels_window (g : Grid K) (rows columns : Span) :
    (g.window ⟨rows.first g.height, columns.first g.width,
        rows.last g.height - rows.first g.height,
        columns.last g.width - columns.first g.width⟩).labels =
      ⟨g.labels.y.slice rows, g.labels.x.slice columns⟩ := by
  obtain ⟨hb, hd⟩ := g.shears_eq_zero
  simp only [Axis.slice, labels, slice_centres, resolution, affine_window, shifted_eq, hb, hd,
    zero_mul, zero_add, add_zero, crs_window, height_window, width_window, Int.cast_natCast]

/-- A selection with a step fails, whatever its bounds. -/
theorem exists_crop_eq_error (g : Grid K) {region : Region}
    (h : ¬(region.rows.IsContiguous ∧ region.columns.IsContiguous)) :
    ∃ step, g.crop region = .error (.stepped step) := by
  by_cases hrows : region.rows.IsContiguous
  · have hcolumns : ¬region.columns.IsContiguous := fun hcolumns => h ⟨hrows, hcolumns⟩
    obtain ⟨step, hstep⟩ := Span.exists_resolve_eq_error (α := K) hcolumns g.width
    refine ⟨step, ?_⟩
    unfold crop
    rw [Span.resolve_of_isContiguous hrows, hstep]
    rfl
  · obtain ⟨step, hstep⟩ := Span.exists_resolve_eq_error (α := K) hrows g.height
    refine ⟨step, ?_⟩
    unfold crop
    rw [hstep]
    rfl

theorem crop_of_isWithin (g : Grid K) {region : Region} (hrows : region.rows.IsContiguous)
    (hcolumns : region.columns.IsContiguous) (hheight : region.rows.IsWithin g.height)
    (hwidth : region.columns.IsWithin g.width) :
    ∃ h, g.crop region = .ok h ∧ h.resolution = g.resolution ∧
      h.labels = ⟨g.labels.y.slice region.rows, g.labels.x.slice region.columns⟩ :=
  ⟨_, g.crop_eq_window (Span.resolve_of_isWithin hrows hheight)
    (Span.resolve_of_isWithin hcolumns hwidth), resolution_window _ _, labels_window _ _ _⟩

/-- Selected rows and columns have the labels of the grid, sliced, with names, units and pixel size
unchanged.  A single index is a selection whose slice is the one label there, and a selection with
a step fails. -/
theorem crop_slices_labels (g : Grid K) :
    (∀ region : Region, region.rows.IsContiguous → region.columns.IsContiguous →
      region.rows.IsWithin g.height → region.columns.IsWithin g.width →
        ∃ h, g.crop region = .ok h ∧ h.resolution = g.resolution ∧
          h.labels = ⟨g.labels.y.slice region.rows, g.labels.x.slice region.columns⟩) ∧
    (∀ i : ℤ, -g.height ≤ i → i < g.height →
      (Span.ofIndex i).IsContiguous ∧ (Span.ofIndex i).IsWithin g.height ∧
        ∃ y, Span.entry? g.labels.y.labels i = some y ∧
          g.labels.y.slice (.ofIndex i) = { g.labels.y with labels := [y] }) ∧
    (∀ j : ℤ, -g.width ≤ j → j < g.width →
      (Span.ofIndex j).IsContiguous ∧ (Span.ofIndex j).IsWithin g.width ∧
        ∃ x, Span.entry? g.labels.x.labels j = some x ∧
          g.labels.x.slice (.ofIndex j) = { g.labels.x with labels := [x] }) ∧
    ∀ region : Region, ¬(region.rows.IsContiguous ∧ region.columns.IsContiguous) →
      ∃ e, g.crop region = .error e ∧ e.kind.name = "NotImplemented" := by
  refine ⟨fun region => g.crop_of_isWithin, ?_, ?_, ?_⟩
  · intro i hlow hhigh
    exact g.labels.y.exists_slice_ofIndex (length_centres _ _ _) hlow hhigh
  · intro j hlow hhigh
    exact g.labels.x.exists_slice_ofIndex (length_centres _ _ _) hlow hhigh
  · intro region hregion
    obtain ⟨step, hcrop⟩ := g.exists_crop_eq_error hregion
    exact ⟨_, hcrop, rfl⟩

/-- The last two rows and the last column, and a selection with a step of two. -/
theorem crop_slices_labels_lastColumn :
    (∃ h, (northUp 5 4 0 0).crop ⟨⟨some (-2), none, some 1⟩, .ofIndex (-1)⟩ = .ok h ∧
      h.resolution = ⟨-10, 10⟩ ∧
        h.labels = ⟨⟨"latitude", "degrees_north", -10, [-25, -35]⟩,
          ⟨"longitude", "degrees_east", 10, [45]⟩⟩) ∧
    ∃ e, (northUp 5 4 0 0).crop ⟨⟨none, none, some 2⟩, .full⟩ = .error e ∧
      e.kind.name = "NotImplemented" := by
  obtain ⟨hslice, -, hindex, hstep⟩ := crop_slices_labels (northUp 5 4 0 0)
  obtain ⟨hcontiguous, hwithin, -⟩ := hindex (-1) (by decide) (by decide)
  have hrows : (⟨some (-2), none, some 1⟩ : Span).IsWithin 4 :=
    ⟨by simp, by simp⟩
  obtain ⟨h, hcrop, hresolution, hlabels⟩ :=
    hslice ⟨⟨some (-2), none, some 1⟩, .ofIndex (-1)⟩ (Or.inr rfl) hcontiguous hrows hwithin
  refine ⟨⟨h, hcrop, hresolution.trans rfl, hlabels.trans ?_⟩, hstep _ ?_⟩
  · have hy : Span.slice ⟨some (-2), none, some 1⟩ (northUp 5 4 0 0).labels.y.labels =
        [-25, -35] := by decide +kernel
    have hx : (Span.ofIndex (-1)).slice (northUp 5 4 0 0).labels.x.labels = [45] := by
      decide +kernel
    rw [Axis.slice, Axis.slice, hy, hx]
    rfl
  · rintro ⟨hrows, -⟩
    rcases hrows with hrows | hrows <;> cases hrows

end Grid

end Graticule
