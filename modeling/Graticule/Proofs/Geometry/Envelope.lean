import Graticule.Grid.Footprint
import Graticule.Proofs.Affine
import Graticule.Proofs.Box

/-!
# Envelopes over exact scalars

The box around a path has the extreme coordinates of its vertices as sides: `Path.box?_cons`.  So
the footprint of a grid has the images of its corners as corners, `Grid.envelope_extent_finite`,
also when the scalars have infinities.
-/

namespace Graticule

open scoped Exact

variable {K : Type} [Field K] [LinearOrder K] [FloorRing K]

def Box.finite (b : Box K) : Box (Extended K) :=
  ⟨.finite b.left, .finite b.bottom, .finite b.right, .finite b.top⟩

namespace Path

/-! ## The box around a path -/

theorem widen_eq {range : K × K} (h : range.1 ≤ range.2) (v : K) :
    widen range v = (min range.1 v, max range.2 v) := by
  unfold widen
  by_cases hupper : range.2 < v
  · rw [if_pos hupper, min_eq_left (h.trans hupper.le), max_eq_right hupper.le]
  · rw [if_neg hupper, max_eq_left (not_lt.1 hupper)]
    by_cases hlower : v < range.1
    · rw [if_pos hlower, min_eq_right hlower.le]
    · rw [if_neg hlower, min_eq_left (not_lt.1 hlower)]

theorem foldl_widen {β : Type} (f : β → K) (bs : List β) {range : K × K}
    (h : range.1 ≤ range.2) :
    bs.foldl (fun r b => widen r (f b)) range =
      ((bs.map f).foldl min range.1, (bs.map f).foldl max range.2) := by
  induction bs generalizing range with
  | nil => rfl
  | cons b bs ih =>
    have hnext : (min range.1 (f b), max range.2 (f b)).1 ≤ (min range.1 (f b), max range.2 (f b)).2 :=
      (min_le_left _ _).trans (h.trans (le_max_left _ _))
    rw [List.foldl_cons, widen_eq h, ih hnext]
    rfl

theorem boxBetween_eq {x y : K × K} (hx : x.1 ≤ x.2) (hy : y.1 ≤ y.2) :
    boxBetween x y = ⟨x.1, y.1, x.2, y.2⟩ := by
  have hside {z : K × K} (hz : z.1 ≤ z.2) : (if z.1 < z.2 then z else (z.2, z.1)) = z := by
    split_ifs with hlt
    · rfl
    · have heq : z.1 = z.2 := le_antisymm hz (not_lt.1 hlt)
      exact Prod.ext heq.symm heq
  unfold boxBetween
  rw [hside hx, hside hy]

/-- The sides of the box around a path are the extreme coordinates of its vertices. -/
theorem box?_cons (p : Position K) (ps : Path K) :
    box? (p :: ps) =
      some ⟨(ps.map (·.x)).foldl min p.x, (ps.map (·.y)).foldl min p.y,
        (ps.map (·.x)).foldl max p.x, (ps.map (·.y)).foldl max p.y⟩ := by
  have hle (f : Position K → K) : (ps.map f).foldl min (f p) ≤ (ps.map f).foldl max (f p) := by
    have hmin := (isLeast_foldl_min (f p) (ps.map f)).2 List.mem_cons_self
    have hmax := (isGreatest_foldl_max (f p) (ps.map f)).2 List.mem_cons_self
    exact hmin.trans hmax
  change some (boxBetween (ps.foldl (fun r q => widen r q.x) (p.x, p.x))
    (ps.foldl (fun r q => widen r q.y) (p.y, p.y))) = _
  rw [foldl_widen _ _ le_rfl, foldl_widen _ _ le_rfl, boxBetween_eq (hle (·.x)) (hle (·.y))]

/-! ## Finite values -/

theorem widen_finite (range : K × K) (v : K) :
    widen (.finite range.1, .finite range.2) (.finite v) =
      (Extended.finite (widen range v).1, Extended.finite (widen range v).2) := by
  unfold widen
  simp only [Extended.finite_lt]
  split_ifs <;> rfl

theorem foldl_widen_finite {β γ : Type} (f : β → K) (g : γ → Extended K) (h : β → γ)
    (hg : ∀ b, g (h b) = .finite (f b)) (bs : List β) (range : K × K) :
    (bs.map h).foldl (fun r c => widen r (g c)) (.finite range.1, .finite range.2) =
      (.finite (bs.foldl (fun r b => widen r (f b)) range).1,
        .finite (bs.foldl (fun r b => widen r (f b)) range).2) := by
  induction bs generalizing range with
  | nil => rfl
  | cons b bs ih => rw [List.map_cons, List.foldl_cons, hg, widen_finite, ih, List.foldl_cons]

theorem boxBetween_finite (x y : K × K) :
    boxBetween (.finite x.1, .finite x.2) (.finite y.1, .finite y.2) = (boxBetween x y).finite := by
  unfold boxBetween
  simp only [Extended.finite_lt]
  split_ifs <;> rfl

theorem box?_finite (path : Path K) :
    box? (path.map Position.finite) = (box? path).map Box.finite := by
  cases path with
  | nil => rfl
  | cons p ps =>
    have hx := foldl_widen_finite (·.x) (·.x) Position.finite (fun _ => rfl) ps (p.x, p.x)
    have hy := foldl_widen_finite (·.y) (·.y) Position.finite (fun _ => rfl) ps (p.y, p.y)
    change some (boxBetween ((ps.map Position.finite).foldl (fun r q => widen r q.x)
        (.finite p.x, .finite p.x))
      ((ps.map Position.finite).foldl (fun r q => widen r q.y) (.finite p.y, .finite p.y))) = _
    rw [hx, hy, boxBetween_finite]
    rfl

theorem isClosed_finite (path : Path K) :
    Path.isClosed (path.map Position.finite) = path.isClosed := by
  unfold Path.isClosed
  rw [List.head?_map, List.getLast?_map]
  cases path.head? with
  | none => cases path.getLast? <;> rfl
  | some p =>
    cases path.getLast? with
    | none => rfl
    | some q => exact Position.beq_finite p q

theorem close_finite (path : Path K) :
    Path.close (path.map Position.finite) = path.close.map Position.finite := by
  cases path with
  | nil => rfl
  | cons p ps =>
    unfold Path.close
    rw [List.map_cons, ← List.map_cons, isClosed_finite]
    split_ifs <;> simp

end Path

/-! ## The footprint of a grid -/

omit [Field K] [FloorRing K] in
theorem Position.beq_self (p : Position K) : (p == p) = true := by
  cases p with
  | mk x y =>
    change (decide (x = x) && decide (y = y)) = true
    simp

namespace Shape

theorem box?_ofImage_eq {α : Type} [Scalar α] (w h : α) (t : Affine α) :
    (ofImage w h t).box? =
      Path.box? (Path.close ([⟨0, 0⟩, ⟨0, h⟩, ⟨w, h⟩, ⟨w, 0⟩, ⟨0, 0⟩].map t.apply)) := by
  rw [ofImage, box?]
  rfl

/-- The box around an image that is neither turned nor sheared. -/
theorem box?_ofImage (w h : K) {t : Affine K} (ht : t.isAxisAligned = true) :
    (ofImage w h t).box? =
      some ⟨min t.c (t.c + w * t.a), min t.f (t.f + h * t.e), max t.c (t.c + w * t.a),
        max t.f (t.f + h * t.e)⟩ := by
  obtain ⟨hb, hd⟩ := (Affine.isAxisAligned_iff t).1 ht
  have happly (x y : K) : t.apply ⟨x, y⟩ = ⟨t.c + x * t.a, t.f + y * t.e⟩ := by
    unfold Affine.apply
    rw [hb, hd]
    congr 1 <;> ring
  have hclosed (p q r s : Position K) : Path.close [p, q, r, s, p] = [p, q, r, s, p] := by
    have : Path.isClosed [p, q, r, s, p] = true := Position.beq_self p
    exact if_pos this
  rw [box?_ofImage_eq]
  simp only [List.map_cons, List.map_nil, happly, hclosed, Path.box?_cons, List.foldl_cons,
    List.foldl_nil, Exact.numeral_eq, Nat.cast_zero, zero_mul, add_zero]
  simp

theorem box?_ofImage_finite (w h : K) (t : Affine K) :
    (ofImage (.finite w) (.finite h) t.finite).box? = (ofImage w h t).box?.map Box.finite := by
  rw [box?_ofImage_eq, box?_ofImage_eq, ← Path.box?_finite, ← Path.close_finite]
  rfl

end Shape

theorem Grid.envelope_extent_finite {g : Grid (Extended K)} {t : Affine K}
    (ht : g.affine = t.finite) :
    g.extent.envelope =
      .ok (Box.finite ⟨min t.c (t.c + g.width * t.a), min t.f (t.f + g.height * t.e),
        max t.c (t.c + g.width * t.a), max t.f (t.f + g.height * t.e)⟩) := by
  have haligned : t.isAxisAligned = true := by
    rw [← Affine.isAxisAligned_finite, ← ht]
    exact g.axisAligned
  have hbox : g.extent.shape.box? =
      (Shape.ofImage (g.width : K) g.height t).box?.map Box.finite := by
    rw [← Shape.box?_ofImage_finite, ← ht]
    rfl
  unfold Geometry.envelope
  rw [hbox, Shape.box?_ofImage _ _ haligned]
  rfl

end Graticule
