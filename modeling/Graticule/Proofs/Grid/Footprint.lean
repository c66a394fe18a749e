import Graticule.Proofs.Box.Image
import Graticule.Proofs.Geometry.HalfPlane
import Graticule.Proofs.Grid.Growth
import Graticule.Proofs.Grid.Slicing

/-!
# Labels inside footprints

The labels of a grid are the images of the pixel centres, so along each axis they lie strictly
inside the footprint, which is the image of the box of all pixels.  A label lies strictly inside the
footprint of some rows and columns just when it labels one of them: `isBetween_label_iff` says so
along one axis, for a pixel size of either sign.  `Grid.labels_inside_extent` puts the axes together.
-/

namespace Graticule

open scoped Exact

variable {K : Type} [Field K] [LinearOrder K] [IsStrictOrderedRing K] [FloorRing K]

/-! ## Areas -/

namespace Path

omit [Field K] [IsStrictOrderedRing K] [FloorRing K] in
theorem close_ring (p q r s : Position K) : close [p, q, r, s, p] = [p, q, r, s, p] := by
  have hclosed : isClosed [p, q, r, s, p] = true := Position.beq_self p
  exact if_pos hclosed

omit [IsStrictOrderedRing K] in
theorem signedArea_ring (p q r s : Position K) :
    signedArea [p, q, r, s, p] =
      ((q.minus p).cross (r.minus p) + (r.minus p).cross (s.minus p)) / 2 := by
  have hclosed : isClosed [p, q, r, s, p] = true := Position.beq_self p
  have hdouble : doubleArea [p, q, r, s, p] =
      (q.minus p).cross (r.minus p) + (r.minus p).cross (s.minus p) := by
    refine (if_pos hclosed).trans ?_
    simp only [edges, List.tail_cons, List.zip_cons_cons, List.zip_nil_right, List.foldl_cons,
      List.foldl_nil, Exact.numeral_eq, Position.cross, Position.minus]
    push_cast
    ring
  unfold signedArea
  rw [hdouble]

end Path

namespace Shape

theorem area_ofImage_eq {α : Type} [Scalar α] (w h : α) (t : Affine α) :
    (ofImage w h t).area =
      Scalar.abs (Scalar.abs
        (Path.close ([⟨0, 0⟩, ⟨0, h⟩, ⟨w, h⟩, ⟨w, 0⟩, ⟨0, 0⟩].map t.apply)).signedArea) := by
  rw [ofImage, area]
  rfl

/-- A map changes areas by its determinant. -/
theorem area_ofImage (w h : K) (t : Affine K) :
    (ofImage w h t).area = |w * h * t.determinant| := by
  rw [area_ofImage_eq, ← abs_neg]
  simp only [List.map_cons, List.map_nil, Path.close_ring, Path.signedArea_ring, Exact.abs_eq,
    abs_abs, Affine.determinant_eq, Affine.apply, Position.cross, Position.minus,
    Exact.numeral_eq]
  congr 1
  push_cast
  ring

end Shape

/-! ## Labels along an axis -/

def IsBetween (u v x : K) : Prop := min u v < x ∧ x < max u v

instance (u v : K) : DecidablePred (IsBetween u v) := fun _ => instDecidableAnd

omit [FloorRing K] in
theorem isBetween_mul_add {res : K} (hres : res ≠ 0) (off u v x : K) :
    IsBetween (off + u * res) (off + v * res) (off + x * res) ↔ IsBetween u v x := by
  unfold IsBetween
  rcases lt_or_gt_of_ne hres with hneg | hpos
  · simp only [min_lt_iff, lt_max_iff, add_lt_add_iff_left, mul_lt_mul_right_of_neg hneg]
    tauto
  · simp only [min_lt_iff, lt_max_iff, add_lt_add_iff_left, mul_lt_mul_iff_left₀ hpos]

theorem isBetween_half_iff {first last : ℕ} (h : first ≤ last) (i : ℕ) :
    IsBetween (first : K) last (i + 1 / 2) ↔ first ≤ i ∧ i < last := by
  have hcast : (first : K) ≤ last := by exact_mod_cast h
  unfold IsBetween
  rw [min_eq_left hcast, max_eq_right hcast]
  constructor
  · rintro ⟨hlow, hhigh⟩
    constructor
    · have hlt : (first : K) < (i + 1 : ℕ) := by
        push_cast
        linarith
      exact Nat.lt_succ_iff.1 (Nat.cast_lt.1 hlt)
    · have hlt : (i : K) < last := by linarith
      exact Nat.cast_lt.1 hlt
  · rintro ⟨hlow, hhigh⟩
    have hfirst : (first : K) ≤ i := by exact_mod_cast hlow
    have hlast : (i : K) + 1 ≤ last := by exact_mod_cast hhigh
    constructor <;> linarith

theorem isBetween_centre {res : K} (hres : res ≠ 0) (off : K) {i n : ℕ} (hi : i < n) :
    IsBetween off (off + n * res) (off + (i + 1 / 2) * res) := by
  have hcentre : IsBetween ((0 : ℕ) : K) n (i + 1 / 2) :=
    (isBetween_half_iff (Nat.zero_le n) i).2 ⟨Nat.zero_le i, hi⟩
  have hscaled := (isBetween_mul_add hres off _ _ _).2 hcentre
  rwa [Nat.cast_zero, zero_mul, add_zero] at hscaled

/-- The entries in a range of places are those that have a property only such entries have. -/
theorem filter_eq_drop_take {β : Type} {inside : β → Prop} [DecidablePred inside] {first last : ℕ}
    {xs : List β} (h : ∀ i (hi : i < xs.length), inside xs[i] ↔ first ≤ i ∧ i < last) :
    xs.filter (fun x => inside x) = (xs.take last).drop first := by
  have hsplit : xs = (xs.take last).take first ++ (xs.take last).drop first ++ xs.drop last := by
    rw [List.take_append_drop, List.take_append_drop]
  have hbefore : ((xs.take last).take first).filter (fun x => inside x) = [] := by
    rw [List.filter_eq_nil_iff]
    intro x hx
    obtain ⟨i, hi, rfl⟩ := List.mem_iff_getElem.1 hx
    simp only [List.length_take] at hi
    rw [List.getElem_take, List.getElem_take, decide_eq_true_iff, h i (by omega)]
    omega
  have hamong : ((xs.take last).drop first).filter (fun x => inside x) =
      (xs.take last).drop first := by
    rw [List.filter_eq_self]
    intro x hx
    obtain ⟨i, hi, rfl⟩ := List.mem_iff_getElem.1 hx
    simp only [List.length_drop, List.length_take] at hi
    rw [List.getElem_drop, List.getElem_take, decide_eq_true_iff, h _ (by omega)]
    omega
  have hafter : (xs.drop last).filter (fun x => inside x) = [] := by
    rw [List.filter_eq_nil_iff]
    intro x hx
    obtain ⟨i, hi, rfl⟩ := List.mem_iff_getElem.1 hx
    simp only [List.length_drop] at hi
    rw [List.getElem_drop, decide_eq_true_iff, h _ (by omega)]
    omega
  conv_lhs => rw [hsplit]
  rw [List.filter_append, List.filter_append, hbefore, hamong, hafter, List.nil_append,
    List.append_nil]

namespace Grid

omit [IsStrictOrderedRing K] in
theorem getElem_centres {n : ℕ} (off res : K) {i : ℕ} (hi : i < (centres n off res).length) :
    (centres n off res)[i] = off + (i + 1 / 2) * res := by
  simp only [centres, List.getElem_map, List.getElem_range, Exact.ofNat_eq, Exact.numeral_eq]
  push_cast
  ring

/-- The labels strictly between the ends of some pixels are the labels of those pixels. -/
theorem filter_centres {res : K} (hres : res ≠ 0) (s : Span) (n : ℕ) (off : K) :
    let start := res * s.first n + off
    let stop := start + ((s.last n - s.first n : ℕ) : K) * res
    (centres n off res).filter (fun x => IsBetween start stop x) =
      s.slice (centres n off res) := by
  intro start stop
  have hinside (i : ℕ) (hi : i < (centres n off res).length) :
      IsBetween start stop (centres n off res)[i] ↔ s.first n ≤ i ∧ i < s.last n := by
    have hstart : start = off + (s.first n : K) * res := by ring
    have hstop : stop = off + ((s.first n + (s.last n - s.first n) : ℕ) : K) * res := by
      push_cast
      ring
    rw [getElem_centres, hstart, hstop, isBetween_mul_add hres, isBetween_half_iff (by omega)]
    omega
  rw [filter_eq_drop_take hinside, Span.slice, length_centres]

/-! ## The footprint -/

theorem area_extent (g : Grid K) :
    g.extent.shape.area = g.width * g.height * |g.affine.a * g.affine.e| := by
  have hpixels : (0 : K) ≤ g.width * g.height := mul_nonneg (Nat.cast_nonneg _) (Nat.cast_nonneg _)
  have harea : g.extent.shape.area = |g.width * g.height * g.affine.determinant| :=
    Shape.area_ofImage _ _ _
  rw [harea, Affine.determinant_eq, g.shears_eq_zero.1, zero_mul, sub_zero, abs_mul,
    abs_of_nonneg hpixels]

/-- The box around the footprint is the image of the box of all pixels. -/
theorem exists_envelope_eq_image (g : Grid K) :
    ∃ b : Box K, g.extent.envelope = .ok b ∧
      Box.image g.affine.finite (Box.finite ⟨0, 0, g.width, g.height⟩) = b.finite := by
  refine ⟨_, g.envelope_extent, ?_⟩
  obtain ⟨c, himage, htight⟩ :=
    Box.exists_image_isTightAround g.affine ⟨0, 0, g.width, g.height⟩
  rw [Box.image_apply_points g.axisAligned] at htight
  rw [himage, htight.eq (Box.isTightAround_points _)]
  simp only [Box.ordered, mul_comm g.affine.a, mul_comm g.affine.e, add_comm _ g.affine.c,
    add_comm _ g.affine.f, zero_mul, add_zero]

/-- Every pixel centre is labelled, and it lies inside the footprint. -/
theorem exists_label_eq_apply {g : Grid K} (ha : g.affine.a ≠ 0) (he : g.affine.e ≠ 0) {b : Box K}
    (hb : g.extent.envelope = .ok b) {i j : ℕ} (hi : i < g.height) (hj : j < g.width) :
    ∃ p, g.affine.apply ⟨j + 1 / 2, i + 1 / 2⟩ = p ∧ g.labels.x.labels[j]? = some p.x ∧
      g.labels.y.labels[i]? = some p.y ∧ b.Surrounds p := by
  obtain ⟨hshear, hshear'⟩ := g.shears_eq_zero
  have hlabel {n k : ℕ} (off res : K) (hk : k < n) :
      (centres n off res)[k]? = some (off + (k + 1 / 2) * res) := by
    have hlength : k < (centres n off res).length := by rwa [length_centres]
    rw [List.getElem?_eq_getElem hlength, getElem_centres]
  refine ⟨⟨g.affine.c + (j + 1 / 2) * g.affine.a, g.affine.f + (i + 1 / 2) * g.affine.e⟩, ?_,
    hlabel _ _ hj, hlabel _ _ hi, ?_⟩
  · unfold Affine.apply
    rw [hshear, hshear']
    congr 1 <;> ring
  · obtain rfl : _ = b := Except.ok.inj (g.envelope_extent.symm.trans hb)
    obtain ⟨hleft, hright⟩ := isBetween_centre ha g.affine.c hj
    obtain ⟨hbottom, htop⟩ := isBetween_centre he g.affine.f hi
    exact ⟨hleft, hright, hbottom, htop⟩

/-- The labels inside the footprint of some rows and columns are the labels of those. -/
theorem exists_crop_filter_labels {g : Grid K} (ha : g.affine.a ≠ 0) (he : g.affine.e ≠ 0)
    {region : Region} (hrows : region.rows.IsContiguous) (hcolumns : region.columns.IsContiguous)
    (hheight : region.rows.IsWithin g.height) (hwidth : region.columns.IsWithin g.width) :
    ∃ h c, g.crop region = .ok h ∧ h.extent.envelope = .ok c ∧
      g.labels.x.labels.filter (fun x => c.left < x ∧ x < c.right) = h.labels.x.labels ∧
        g.labels.y.labels.filter (fun y => c.bottom < y ∧ y < c.top) = h.labels.y.labels := by
  obtain ⟨hshear, hshear'⟩ := g.shears_eq_zero
  refine ⟨_, _, g.crop_eq_window (Span.resolve_of_isWithin hrows hheight)
    (Span.resolve_of_isWithin hcolumns hwidth), envelope_extent _, ?_⟩
  rw [labels_window]
  simp only [affine_window, shifted_eq, hshear, hshear', zero_mul, zero_add, add_zero,
    height_window, width_window, Int.cast_natCast]
  exact ⟨filter_centres ha region.columns g.width g.affine.c,
    filter_centres he region.rows g.height g.affine.f⟩

/-- The labels are the coordinates of the pixel centres, inside the footprint, which is the image of
the box of all pixels and as large as they are together.  Those of the labels that lie inside the
footprint of some rows and columns are the labels of that selection. -/
theorem labels_inside_extent {g : Grid K} (ha : g.affine.a ≠ 0) (he : g.affine.e ≠ 0) :
    ∃ b, g.extent.envelope = .ok b ∧
      Box.image g.affine.finite (Box.finite ⟨0, 0, g.width, g.height⟩) = b.finite ∧
        g.extent.shape.area = g.width * g.height * |g.affine.a * g.affine.e| ∧
          (∀ i j, i < g.height → j < g.width →
            ∃ p, g.affine.apply ⟨j + 1 / 2, i + 1 / 2⟩ = p ∧ g.labels.x.labels[j]? = some p.x ∧
              g.labels.y.labels[i]? = some p.y ∧ b.Surrounds p) ∧
            ∀ region : Region, region.rows.IsContiguous → region.columns.IsContiguous →
              region.rows.IsWithin g.height → region.columns.IsWithin g.width →
                ∃ h c, g.crop region = .ok h ∧ h.extent.envelope = .ok c ∧
                  g.labels.x.labels.filter (fun x => c.left < x ∧ x < c.right) =
                    h.labels.x.labels ∧
                  g.labels.y.labels.filter (fun y => c.bottom < y ∧ y < c.top) =
                    h.labels.y.labels := by
  obtain ⟨b, hb, himage⟩ := g.exists_envelope_eq_image
  refine ⟨b, hb, himage, g.area_extent, fun i j => exists_label_eq_apply ha he hb, ?_⟩
  intro region hrows hcolumns hheight hwidth
  exact exists_crop_filter_labels ha he hrows hcolumns hheight hwidth

/-- The middle row and the last two columns of three rows and four columns. -/
theorem labels_inside_extent_middleRow :
    let g := northUp 4 3 0 0
    ∃ b, g.extent.envelope = .ok b ∧ g.extent.shape.area = 1200 ∧
      (∃ p, g.affine.apply ⟨3 + 1 / 2, 1 + 1 / 2⟩ = p ∧ b.Surrounds p) ∧
        ∃ h c, g.crop ⟨.ofIndex 1, ⟨some (-2), none, none⟩⟩ = .ok h ∧
          h.extent.envelope = .ok c ∧
            [5, 15, 25, 35].filter (fun x => c.left < x ∧ x < c.right) = h.labels.x.labels ∧
            [-5, -15, -25].filter (fun y => c.bottom < y ∧ y < c.top) = h.labels.y.labels := by
  intro g
  have ha : g.affine.a ≠ 0 := by decide
  have he : g.affine.e ≠ 0 := by decide
  have hcolumns : (⟨some (-2), none, none⟩ : Span).IsWithin 4 := ⟨by simp, by simp⟩
  obtain ⟨b, hb, -, harea, hlabel, hcrop⟩ := labels_inside_extent ha he
  obtain ⟨p, hp, -, -, hinside⟩ := hlabel 1 3 (by decide) (by decide)
  obtain ⟨h, c, hh, hc, hx, hy⟩ := hcrop ⟨.ofIndex 1, ⟨some (-2), none, none⟩⟩
    (Span.isContiguous_ofIndex 1) (Or.inl rfl)
    (Span.isWithin_ofIndex (by decide) (by decide)) hcolumns
  have hxs : g.labels.x.labels = [5, 15, 25, 35] := by decide +kernel
  have hys : g.labels.y.labels = [-5, -15, -25] := by decide +kernel
  rw [hxs] at hx
  rw [hys] at hy
  refine ⟨b, hb, harea.trans ?_, ⟨p, hp, hinside⟩, h, c, hh, hc, hx, hy⟩
  norm_num [g, northUp]

end Grid

end Graticule
