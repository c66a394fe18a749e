import Graticule.Grid.Resize
import Graticule.Proofs.Affine.Composition
import Graticule.Proofs.Grid.Recovery

/-!
# Grids of coarser pixels

Pixels that are longer by a factor keep the first edge of a grid and are the fewest that reach its
last edge: a number of them reaches it exactly when it is no less, `coarser_le_iff`.  So the coarser
grid contains the former one and is longer by less than a pixel, and making pixels longer a second
time, by a whole factor, is the same as making them longer once by the product.
-/

namespace Graticule.Grid

open scoped Exact
open Extended (finite)

variable {K : Type} [Field K] [LinearOrder K] [IsStrictOrderedRing K] [FloorRing K]

/-- An axis of pixels of signed size `res` has the first edge of another one, contains it, and is
longer by less than a pixel. -/
structure ReachesPast (res low high low' high' : K) : Prop where
  first : if 0 < res then low' = low else high' = high
  low_le : low' ≤ low
  le_high : high ≤ high'
  longer : high' - low' - (high - low) < |res|

/-- The grid `h` has the origin and the reference system of `g` and pixels `s` times as long, and
reaches past its far sides by less than one of them.  What has no columns or rows has none again. -/
structure IsCoarsened (s : K) (t : Affine K) (g h : Grid (Extended K)) : Prop where
  crs : h.crs = g.crs
  origin : h.affine.c = g.affine.c ∧ h.affine.f = g.affine.f
  resolution : h.resolution = ⟨finite (s * t.e), finite (s * t.a)⟩
  width_eq_zero_iff : h.width = 0 ↔ g.width = 0
  height_eq_zero_iff : h.height = 0 ↔ g.height = 0
  covers : ∃ b c : Box K, g.extent.envelope = .ok b.finite ∧ h.extent.envelope = .ok c.finite ∧
    ReachesPast (s * t.a) b.left b.right c.left c.right ∧
    ReachesPast (s * t.e) b.bottom b.top c.bottom c.top

/-! ## Numbers of pixels -/

/-- Pixels are enough after scaling exactly when they reach as far as those before. -/
theorem coarser_le_iff {s : K} (hs : 0 < s) (n m : ℕ) : coarser s n ≤ m ↔ (n : K) ≤ m * s := by
  unfold coarser
  rw [Exact.toNat_eq, Exact.ceil_eq, Exact.truncate_intCast, Exact.ofNat_eq, Int.toNat_le,
    Int.ceil_le, Int.cast_natCast, div_le_iff₀ hs]

theorem le_coarser_mul {s : K} (hs : 0 < s) (n : ℕ) : (n : K) ≤ coarser s n * s :=
  (coarser_le_iff hs n _).1 le_rfl

theorem coarser_mul_lt {s : K} (hs : 0 < s) (n : ℕ) : coarser s n * s < n + s := by
  cases hcount : coarser s n with
  | zero =>
    rw [Nat.cast_zero, zero_mul]
    exact add_pos_of_nonneg_of_pos n.cast_nonneg hs
  | succ m =>
    have hfewer : ¬coarser s n ≤ m := by omega
    rw [coarser_le_iff hs, not_le] at hfewer
    push_cast
    linarith

theorem coarser_eq_zero_iff {s : K} (hs : 0 < s) (n : ℕ) : coarser s n = 0 ↔ n = 0 := by
  rw [← Nat.le_zero, coarser_le_iff hs, Nat.cast_zero, zero_mul]
  exact_mod_cast Nat.le_zero

theorem coarser_coarser {s : K} (hs : 0 < s) {k : ℕ} (hk : 0 < k) (n : ℕ) :
    coarser (k : K) (coarser s n) = coarser (s * k) n := by
  have hk' : (0 : K) < k := Nat.cast_pos.2 hk
  apply eq_of_forall_ge_iff
  intro m
  -- the second factor is whole, so `m` pixels of it are a whole number of the first
  have hwhole : (coarser s n : K) ≤ m * k ↔ coarser s n ≤ m * k := by exact_mod_cast Iff.rfl
  rw [coarser_le_iff hk', hwhole, coarser_le_iff hs, coarser_le_iff (mul_pos hs hk'),
    Nat.cast_mul, mul_assoc, mul_comm (k : K) s]

/-- By one and a half the second time, three pixels become two and stay two, not the one that is
three times as long. -/
example : coarser (3 / 2 : ℚ) (coarser (2 : ℚ) 3) = 2 ∧ coarser (3 : ℚ) 3 = 1 := by
  decide +kernel

omit [IsStrictOrderedRing K] in
theorem coarser_finite {s : K} (hs : s ≠ 0) (n : ℕ) : coarser (finite s) n = coarser s n := by
  have hquotient : Scalar.ofNat n / finite s = finite ((n : K) / s) := Extended.finite_div _ hs
  unfold coarser
  rw [hquotient, Extended.ceil_finite, Extended.toNat_finite]
  rfl

/-! ## Edges along an axis -/

theorem reachesPast_coarser (edge : K) {res s : K} (hres : res ≠ 0) (hs : 0 < s) (n : ℕ) :
    ReachesPast (s * res) (min edge (edge + n * res)) (max edge (edge + n * res))
      (min edge (edge + coarser s n * (s * res))) (max edge (edge + coarser s n * (s * res))) := by
  have hlength : (coarser s n : K) * (s * res) = coarser s n * s * res := (mul_assoc _ _ _).symm
  have hreach := le_coarser_mul hs n
  have hclose := coarser_mul_lt hs n
  have hn : (0 : K) ≤ n := n.cast_nonneg
  rw [hlength]
  generalize (coarser s n : K) * s = m at hreach hclose
  rcases lt_or_gt_of_ne hres with hneg | hpos
  · have hold : (n : K) * res ≤ 0 := mul_nonpos_of_nonneg_of_nonpos hn hneg.le
    have hnew : m * res ≤ n * res := mul_le_mul_of_nonpos_right hreach hneg.le
    have hfar : (n + s) * res < m * res := mul_lt_mul_of_neg_right hclose hneg
    have hsize : s * res < 0 := mul_neg_of_pos_of_neg hs hneg
    rw [min_eq_right (by linarith), min_eq_right (by linarith), max_eq_left (by linarith),
      max_eq_left (by linarith)]
    refine ⟨?_, by linarith, le_rfl, ?_⟩
    · rw [if_neg hsize.not_gt]
    · rw [abs_of_neg hsize]
      linarith
  · have hold : 0 ≤ (n : K) * res := mul_nonneg hn hpos.le
    have hnew : n * res ≤ m * res := mul_le_mul_of_nonneg_right hreach hpos.le
    have hfar : m * res < (n + s) * res := mul_lt_mul_of_pos_right hclose hpos
    have hsize : 0 < s * res := mul_pos hs hpos
    rw [min_eq_left (by linarith), min_eq_left (by linarith), max_eq_right (by linarith),
      max_eq_right (by linarith)]
    refine ⟨?_, le_rfl, by linarith, ?_⟩
    · rw [if_pos hsize]
    · rw [abs_of_pos hsize]
      linarith

/-! ## The coarser grid -/

omit [IsStrictOrderedRing K] in
/-- The parts of the grid with pixels longer by a factor above one. -/
theorem exists_scaledDown_eq {g : Grid (Extended K)} {t : Affine K} (ht : g.affine = t.finite)
    {s : K} (hs : 1 < s) :
    ∃ h, g.scaledDown (finite s) = .ok h ∧ h.width = coarser s g.width ∧
      h.height = coarser s g.height ∧ h.affine = (t * .scale s s).finite ∧ h.crs = g.crs := by
  have hne : s ≠ 0 := (one_pos.trans hs).ne'
  have haligned : (t * .scale s s).finite.isAxisAligned = true := by
    have hself : t.isAxisAligned = true := by
      rw [← Affine.isAxisAligned_finite, ← ht]
      exact g.axisAligned
    rw [Affine.isAxisAligned_finite]
    exact Affine.isAxisAligned_mul hself (Affine.isAxisAligned_scale s s)
  have hfactor : (Scalar.isFinite (finite s) && decide (1 < finite s)) = true := by
    rw [Extended.isFinite_finite, Bool.true_and, decide_eq_true_iff, Extended.one_eq,
      Extended.finite_lt]
    exact hs
  refine ⟨⟨_, _, _, g.crs, haligned⟩, ?_, rfl, rfl, rfl, rfl⟩
  unfold scaledDown
  rw [if_pos hfactor, coarser_finite hne, coarser_finite hne, ht, Affine.scale_finite,
    Affine.mul_finite]
  exact dif_pos haligned

theorem exists_scaledDown_isCoarsened {g : Grid (Extended K)} {t : Affine K}
    (ht : g.affine = t.finite) (ha : t.a ≠ 0) (he : t.e ≠ 0) {s : K} (hs : 1 < s) :
    ∃ h, g.scaledDown (finite s) = .ok h ∧ IsCoarsened s t g h := by
  have hpos : 0 < s := one_pos.trans hs
  obtain ⟨h, hscaled, hwidth, hheight, haffine, hcrs⟩ := exists_scaledDown_eq ht hs
  rw [Affine.mul_scale] at haffine
  refine ⟨h, hscaled, hcrs, ?_, ?_, ?_, ?_, _, _, envelope_extent_finite ht,
    envelope_extent_finite haffine, ?_, ?_⟩
  · rw [haffine, ht]
    exact ⟨rfl, rfl⟩
  · unfold resolution
    rw [haffine]
    rfl
  · rw [hwidth, coarser_eq_zero_iff hpos]
  · rw [hheight, coarser_eq_zero_iff hpos]
  · rw [hwidth]
    exact reachesPast_coarser t.c ha hpos g.width
  · rw [hheight]
    exact reachesPast_coarser t.f he hpos g.height

/-- Longer pixels are made longer again, by a whole factor, in one go. -/
theorem exists_scaledDown_scaledDown {g : Grid (Extended K)} {t : Affine K}
    (ht : g.affine = t.finite) {s : K} (hs : 1 < s) {n : ℕ} (hn : 1 < n) :
    ∃ h k, g.scaledDown (finite s) = .ok h ∧ h.scaledDown (finite n) = .ok k ∧
      g.scaledDown (finite (s * n)) = .ok k := by
  have hn' : (1 : K) < n := Nat.one_lt_cast.2 hn
  have hpos : 0 < s := one_pos.trans hs
  obtain ⟨h, hfirst, hwidth, hheight, haffine, hcrs⟩ := exists_scaledDown_eq ht hs
  obtain ⟨k, hsecond, hwidth', hheight', haffine', hcrs'⟩ := exists_scaledDown_eq haffine hn'
  obtain ⟨once, honce, honceWidth, honceHeight, honceAffine, honceCrs⟩ :=
    exists_scaledDown_eq ht (one_lt_mul hs.le hn')
  have hself : once = k := by
    apply eq_of_parts
    · rw [honceWidth, hwidth', hwidth, coarser_coarser hpos (by omega)]
    · rw [honceHeight, hheight', hheight, coarser_coarser hpos (by omega)]
    · rw [honceAffine, haffine', Affine.mul_assoc, Affine.scale_mul_scale]
    · rw [honceCrs, hcrs', hcrs]
  exact ⟨h, k, hfirst, hsecond, hself ▸ honce⟩

omit [IsStrictOrderedRing K] in
theorem scaledDown_eq_error {g : Grid (Extended K)} {s : Extended K}
    (hs : ∀ x, s = finite x → x ≤ 1) : g.scaledDown s = .error (.badScale s) := by
  apply if_neg
  rw [Bool.and_eq_true, Extended.isFinite_iff, decide_eq_true_iff, Extended.one_eq]
  rintro ⟨⟨x, rfl⟩, hlt⟩
  exact absurd ((Extended.finite_lt _ _).1 hlt) (hs x rfl).not_gt

/-- Pixels longer by a factor above one cover a grid from its origin, and reach past its far sides by
less than one of them.  Two factors, the second whole, act as their product.  A factor that is not
above one, not finite or not a number is bad input. -/
theorem scaledDown_covers_composes :
    (∀ (g : Grid (Extended K)) (t : Affine K) (s : K), g.affine = t.finite → t.a ≠ 0 → t.e ≠ 0 →
      1 < s → ∃ h, g.scaledDown (finite s) = .ok h ∧ IsCoarsened s t g h) ∧
    (∀ (g : Grid (Extended K)) (t : Affine K) (s : K) (n : ℕ), g.affine = t.finite → 1 < s →
      1 < n → ∃ h k, g.scaledDown (finite s) = .ok h ∧ h.scaledDown (finite n) = .ok k ∧
        g.scaledDown (finite (s * n)) = .ok k) ∧
    ∀ (g : Grid (Extended K)) (s : Extended K), (∀ x, s = finite x → x ≤ 1) →
      ∃ e, g.scaledDown s = .error e ∧ e.kind.name = "InputError" :=
  ⟨fun _ _ _ ht ha he hs => exists_scaledDown_isCoarsened ht ha he hs,
    fun _ _ _ _ ht hs hn => exists_scaledDown_scaledDown ht hs hn,
    fun _ _ hs => ⟨_, scaledDown_eq_error hs, rfl⟩⟩

/-- The leftward grid, with pixels one and a half times as long and these twice as long, and refused
for a factor that is not a number. -/
theorem scaledDown_covers_composes_leftwardGrid :
    ∃ h k, leftwardGrid.scaledDown (finite (3 / 2)) = .ok h ∧
      IsCoarsened (3 / 2) ⟨-2, 0, 7 / 2, 0, 3, -5⟩ leftwardGrid h ∧
      h.scaledDown (finite (2 : ℕ)) = .ok k ∧
      leftwardGrid.scaledDown (finite (3 / 2 * (2 : ℕ))) = .ok k ∧
      ∃ e, leftwardGrid.scaledDown .nan = .error e ∧ e.kind.name = "InputError" := by
  obtain ⟨hcovers, hcomposes, hrefused⟩ := scaledDown_covers_composes (K := ℝ)
  obtain ⟨h, hh, hcoarsened⟩ := hcovers leftwardGrid ⟨-2, 0, 7 / 2, 0, 3, -5⟩ (3 / 2) rfl
    (by norm_num) (by norm_num) (by norm_num)
  obtain ⟨h', k, hh', hk, honce⟩ := hcomposes leftwardGrid ⟨-2, 0, 7 / 2, 0, 3, -5⟩ (3 / 2) 2 rfl
    (by norm_num) (by norm_num)
  obtain rfl : h' = h := Except.ok.inj (hh'.symm.trans hh)
  exact ⟨h', k, hh, hcoarsened, hk, honce, hrefused leftwardGrid .nan nofun⟩

end Graticule.Grid
