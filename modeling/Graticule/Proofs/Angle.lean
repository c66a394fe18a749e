import Graticule.Proofs.Angle.Turns

/-!
# Angles over the reals

Degrees and radians are inverse to one another, and `wrap` moves a finite longitude by whole turns
to within half a turn of zero.  Strictly within half a turn there is one such longitude, so `wrap`
undoes any number of turns: `wrap_eq`.  A longitude that lies within half a turn stays what it is:
`wrap_of_abs_le`.
-/

namespace Graticule.Angle

open Extended (finite)

theorem radians_finite (x : ℝ) : radians (finite x) = finite (x * (Real.pi / 180)) := by
  unfold radians
  rw [Extended.pi_eq, Extended.ofNat_eq, Extended.finite_div _ (by norm_num), Extended.finite_mul]

theorem degrees_finite (x : ℝ) : degrees (finite x) = finite (x * (180 / Real.pi)) := by
  unfold degrees
  rw [Extended.pi_eq, Extended.ofNat_eq, Extended.finite_div _ Real.pi_ne_zero,
    Extended.finite_mul]

/-- Degrees that were made radians come back. -/
theorem degrees_radians_finite (x : ℝ) :
    degrees (finite (x * (Real.pi / 180))) = finite x := by
  have hpi := Real.pi_ne_zero
  rw [degrees_finite]
  congr 1
  field_simp

theorem degrees_radians (x : Extended ℝ) : degrees (radians x) = x := by
  cases x with
  | finite x => rw [radians_finite, degrees_radians_finite]
  | infinite negative =>
    have hpi := Real.pi_pos
    unfold degrees radians
    rw [Extended.pi_eq, Extended.ofNat_eq, Extended.finite_div _ (by norm_num),
      Extended.finite_div _ hpi.ne', Extended.infinite_mul_finite negative (by positivity),
      Extended.infinite_mul_finite negative (by positivity)]
  | nan => rfl

/-- A difference of degrees, in radians. -/
theorem abs_degrees_sub (psi lat : ℝ) :
    |psi * (180 / Real.pi) - lat| * (Real.pi / 180) = |psi - lat * (Real.pi / 180)| := by
  have hpi := Real.pi_pos
  have hunit : 0 < Real.pi / 180 := by positivity
  have hscaled : (psi * (180 / Real.pi) - lat) * (Real.pi / 180) = psi - lat * (Real.pi / 180) := by
    field_simp
  rw [← hscaled, abs_mul, abs_of_pos hunit]

theorem abs_radians_lt {x bound : ℝ} (hx : |x| < bound) :
    |x * (Real.pi / 180)| < bound * (Real.pi / 180) := by
  have hunit : 0 < Real.pi / 180 := by positivity
  rw [abs_mul, abs_of_pos hunit]
  exact mul_lt_mul_of_pos_right hx hunit

/-- A longitude within half a turn, in radians. -/
theorem abs_longitude_lt {lon : ℝ} (hlon : |lon| < 180) : |lon * (Real.pi / 180)| < Real.pi := by
  have h := abs_radians_lt hlon
  rwa [mul_div_cancel₀ _ (by norm_num)] at h

/-- A latitude between the poles, in radians. -/
theorem abs_latitude_lt {lat : ℝ} (hlat : |lat| < 90) :
    |lat * (Real.pi / 180)| < Real.pi / 2 := by
  have h := abs_radians_lt hlat
  have hright : 90 * (Real.pi / 180) = Real.pi / 2 := by ring
  rwa [hright] at h

theorem right_eq : (right : Extended ℝ) = finite (Real.pi / 2) := by
  unfold right
  rw [Extended.pi_eq, Extended.ofNat_eq, Extended.finite_div _ two_ne_zero]

theorem halfRight_eq : (halfRight : Extended ℝ) = finite (Real.pi / 4) := by
  unfold halfRight
  rw [Extended.pi_eq, Extended.ofNat_eq, Extended.finite_div _ four_ne_zero]

theorem turn_eq : (turn : Extended ℝ) = finite (2 * Real.pi) := by
  unfold turn
  rw [Extended.pi_eq, Extended.ofNat_eq, Extended.finite_mul]

section
open scoped Exact

theorem keepsTurns_finite : KeepsTurns (finite : ℝ → Extended ℝ) where
  turnsWithin x := by
    have hturn : (turn : ℝ) ≠ 0 := (turn_pos rfl Real.pi_pos).ne'
    have hquotient : Scalar.abs (finite x) / turn = finite (|x| / turn) :=
      Extended.finite_div _ hturn
    unfold turnsWithin
    rw [hquotient]
    rfl
  pi_lt x := Extended.finite_lt _ x
  lt_neg_pi x := by
    rw [Extended.pi_eq, Extended.finite_neg]
    exact Extended.finite_lt x _
  sub_turn x := Extended.finite_sub x _
  add_turn x := Extended.finite_add x _

theorem wrap_of_abs_le {x : ℝ} (hx : |x| ≤ Real.pi) : wrap (finite x) = finite x := by
  rw [keepsTurns_finite.wrap, wrap_eq_self rfl Real.pi_pos hx]

end

/-- A finite longitude is moved by whole turns to within half a turn of zero. -/
theorem exists_wrap_eq (x : ℝ) :
    ∃ m : ℤ, wrap (finite x) = finite (x + m * (2 * Real.pi)) ∧
      |x + m * (2 * Real.pi)| ≤ Real.pi := by
  rw [two_mul]
  open scoped Exact in
  obtain ⟨m, hm⟩ := AddCommGroup.modEq_iff_zsmul.1 (wrap_modEq rfl Real.pi_pos x).symm
  rw [zsmul_eq_mul, turn_eq_pi_add_pi rfl] at hm
  have hvalue : wrap x = x + m * (Real.pi + Real.pi) := eq_add_of_sub_eq' hm.symm
  have hwithin := abs_wrap_le rfl Real.pi_pos x
  rw [hvalue] at hwithin
  exact ⟨m, by rw [keepsTurns_finite.wrap, hvalue], hwithin⟩

/-- Strictly within half a turn of zero a longitude is the only one among those that differ from it
by whole turns. -/
theorem wrap_eq {x y : ℝ} (m : ℤ) (hxy : x = y + m * (2 * Real.pi)) (hy : |y| < Real.pi) :
    wrap (finite x) = finite y := by
  rw [two_mul] at hxy
  open scoped Exact in
  have hmod : y ≡ x [PMOD turn] := by
    rw [AddCommGroup.modEq_iff_zsmul, turn_eq_pi_add_pi rfl, hxy, add_sub_cancel_left]
    exact ⟨m, zsmul_eq_mul _ _⟩
  have hself : wrap y = y := wrap_eq_self rfl Real.pi_pos hy.le
  rcases sameLongitude_wrap rfl Real.pi_pos hmod with hequal | ⟨hend, -⟩
  · rw [keepsTurns_finite.wrap, ← hequal, hself]
  · rw [hself] at hend
    exact absurd hend hy.ne

theorem wrap_zero : wrap (finite (0 : ℝ)) = finite 0 := by
  apply wrap_of_abs_le
  rw [abs_zero]
  exact Real.pi_pos.le

/-! ## Angles in the plane -/

theorem atan2_polar {r theta : ℝ} (hr : 0 < r) (hlow : -Real.pi < theta)
    (hhigh : theta ≤ Real.pi) :
    Elementary.atan2 (finite (r * Real.sin theta)) (finite (r * Real.cos theta)) =
      finite theta := by
  have hpoint : (⟨r * Real.cos theta, r * Real.sin theta⟩ : ℂ) =
      r * (Complex.cos theta + Complex.sin theta * Complex.I) := by
    apply Complex.ext
    · simp [← Complex.ofReal_cos, ← Complex.ofReal_sin]
    · simp [← Complex.ofReal_cos, ← Complex.ofReal_sin]
  rw [Extended.atan2_finite, hpoint, Complex.arg_mul_cos_add_sin_mul_I hr ⟨hlow, hhigh⟩]

/-- At the half turn the angle may come back from the other side. -/
theorem exists_atan2_polar {r theta : ℝ} (hr : 0 < r) (htheta : |theta| ≤ Real.pi) :
    ∃ k : ℤ, Elementary.atan2 (finite (r * Real.sin theta)) (finite (r * Real.cos theta)) =
      finite (theta + k * (2 * Real.pi)) := by
  have hpi := Real.pi_pos
  obtain ⟨hlow, hhigh⟩ := abs_le.1 htheta
  rcases hlow.lt_or_eq with hlow | rfl
  · refine ⟨0, ?_⟩
    rw [atan2_polar hr hlow hhigh]
    simp
  · refine ⟨1, ?_⟩
    have hturn : r * Real.sin (-Real.pi) = r * Real.sin Real.pi ∧
        r * Real.cos (-Real.pi) = r * Real.cos Real.pi := by simp
    rw [hturn.1, hturn.2, atan2_polar hr (by linarith) le_rfl]
    congr 1
    push_cast
    ring

theorem sqrt_polar (r theta : ℝ) :
    √((r * Real.sin theta) ^ 2 + (r * Real.cos theta) ^ 2) = |r| := by
  have hunit : (r * Real.sin theta) ^ 2 + (r * Real.cos theta) ^ 2 = r ^ 2 := by
    rw [mul_pow, mul_pow, ← mul_add, Real.sin_sq_add_cos_sq, mul_one]
  rw [hunit, Real.sqrt_sq_eq_abs]

end Graticule.Angle
