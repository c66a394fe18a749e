import Graticule.Projection.LambertConformal
import Graticule.Proofs.Angle
import Mathlib

/-!
# The cone constant

The cone constant of two parallels is the sine of a latitude between them, by the mean value theorem
for `log ∘ cos` and `log ∘ halfTan`.  So it is less than one in size, and the meridians of a cone
fill less than a whole turn around its apex: `abs_realConeConstant_lt_one`.
-/

namespace Graticule.LambertConformal

open Extended (finite)

open scoped Exact in
noncomputable def realHalfTan (phi : ℝ) : ℝ := Real.tan (Real.pi / 4 + phi / 2)

theorem realHalfTan_eq (phi : ℝ) : realHalfTan phi = Real.tan (Real.pi / 4 + phi / 2) := rfl

theorem cos_pos_of_abs_lt {phi : ℝ} (hphi : |phi| < Real.pi / 2) : 0 < Real.cos phi :=
  Real.cos_pos_of_mem_Ioo (abs_lt.1 hphi)

theorem abs_sin_lt_one {phi : ℝ} (hphi : |phi| < Real.pi / 2) : |Real.sin phi| < 1 := by
  have hcos := cos_pos_of_abs_lt hphi
  have hunit := Real.sin_sq_add_cos_sq phi
  rw [← sq_lt_one_iff_abs_lt_one]
  nlinarith

theorem sin_halfRight_add_pos {phi : ℝ} (hphi : |phi| < Real.pi / 2) :
    0 < Real.sin (Real.pi / 4 + phi / 2) := by
  rw [abs_lt] at hphi
  apply Real.sin_pos_of_pos_of_lt_pi <;> linarith

theorem cos_halfRight_add_pos {phi : ℝ} (hphi : |phi| < Real.pi / 2) :
    0 < Real.cos (Real.pi / 4 + phi / 2) := by
  rw [abs_lt] at hphi
  apply Real.cos_pos_of_mem_Ioo
  constructor <;> linarith

theorem realHalfTan_pos {phi : ℝ} (hphi : |phi| < Real.pi / 2) : 0 < realHalfTan phi := by
  rw [realHalfTan_eq, Real.tan_eq_sin_div_cos]
  exact div_pos (sin_halfRight_add_pos hphi) (cos_halfRight_add_pos hphi)

theorem halfTan_finite {phi : ℝ} (hphi : |phi| < Real.pi / 2) :
    halfTan (finite phi) = finite (realHalfTan phi) := by
  unfold halfTan
  rw [realHalfTan_eq, Angle.halfRight_eq, Extended.ofNat_eq, Extended.finite_div _ two_ne_zero,
    Extended.finite_add, Extended.tan_finite (cos_halfRight_add_pos hphi).ne']

/-! ## The mean value theorem between two parallels -/

theorem hasDerivAt_log_cos {phi : ℝ} (hphi : |phi| < Real.pi / 2) :
    HasDerivAt (fun x => Real.log (Real.cos x)) (-Real.sin phi / Real.cos phi) phi :=
  (Real.hasDerivAt_cos phi).log (cos_pos_of_abs_lt hphi).ne'

theorem hasDerivAt_log_realHalfTan {phi : ℝ} (hphi : |phi| < Real.pi / 2) :
    HasDerivAt (fun x => Real.log (realHalfTan x)) (1 / Real.cos phi) phi := by
  have hsin := (sin_halfRight_add_pos hphi).ne'
  have hcos := (cos_halfRight_add_pos hphi).ne'
  have hinner : HasDerivAt (fun x : ℝ => Real.pi / 4 + x / 2) (1 / 2) phi :=
    ((hasDerivAt_id phi).div_const 2).const_add _
  have htan := ((Real.hasDerivAt_tan hcos).comp phi hinner).log (realHalfTan_pos hphi).ne'
  -- twice the half angle is a quarter turn past the latitude
  have hdouble : Real.cos phi =
      2 * Real.sin (Real.pi / 4 + phi / 2) * Real.cos (Real.pi / 4 + phi / 2) := by
    rw [← Real.sin_two_mul, ← Real.sin_add_pi_div_two]
    congr 1
    ring
  refine htan.congr_deriv ?_
  rw [Function.comp_apply, Real.tan_eq_sin_div_cos, hdouble]
  field_simp

theorem exists_sin_eq_ratio {a b : ℝ} (ha : |a| < Real.pi / 2) (hb : |b| < Real.pi / 2)
    (hab : a < b) :
    ∃ c, |c| < Real.pi / 2 ∧ Real.log (Real.cos a) - Real.log (Real.cos b) =
      Real.sin c * (Real.log (realHalfTan b) - Real.log (realHalfTan a)) := by
  have hwithin {x : ℝ} (hx : x ∈ Set.Icc a b) : |x| < Real.pi / 2 := by
    rw [abs_lt] at ha hb ⊢
    exact ⟨ha.1.trans_le hx.1, hx.2.trans_lt hb.2⟩
  obtain ⟨c, hc, hratio⟩ := exists_ratio_hasDerivAt_eq_ratio_slope
    (fun x => Real.log (Real.cos x)) (fun x => -Real.sin x / Real.cos x) hab
    (fun x hx => (hasDerivAt_log_cos (hwithin hx)).continuousAt.continuousWithinAt)
    (fun x hx => hasDerivAt_log_cos (hwithin (Set.Ioo_subset_Icc_self hx)))
    (fun x => Real.log (realHalfTan x)) (fun x => 1 / Real.cos x)
    (fun x hx => (hasDerivAt_log_realHalfTan (hwithin hx)).continuousAt.continuousWithinAt)
    (fun x hx => hasDerivAt_log_realHalfTan (hwithin (Set.Ioo_subset_Icc_self hx)))
  have hc' := hwithin (Set.Ioo_subset_Icc_self hc)
  have hcos := (cos_pos_of_abs_lt hc').ne'
  refine ⟨c, hc', ?_⟩
  field_simp at hratio
  linarith

/-! ## Its size -/

noncomputable def realConeConstant (phi1 phi2 : ℝ) : ℝ :=
  if |phi1 - phi2| < 1e-10 then Real.sin phi1
  else
    Real.log (Real.cos phi1 / Real.cos phi2) / Real.log (realHalfTan phi2 / realHalfTan phi1)

/-- A cone around one parallel is tangent there. -/
theorem realConeConstant_self (phi : ℝ) : realConeConstant phi phi = Real.sin phi := by
  have hnear : |phi - phi| < 1e-10 := by
    rw [sub_self, abs_zero]
    positivity
  exact if_pos hnear

theorem realHalfTan_strictMono {a b : ℝ} (ha : |a| < Real.pi / 2) (hb : |b| < Real.pi / 2)
    (hab : a < b) : realHalfTan a < realHalfTan b := by
  rw [abs_lt] at ha hb
  apply Real.tan_lt_tan_of_lt_of_lt_pi_div_two <;> linarith

theorem realHalfTan_ne {a b : ℝ} (ha : |a| < Real.pi / 2) (hb : |b| < Real.pi / 2)
    (hab : a ≠ b) : realHalfTan a ≠ realHalfTan b := by
  rcases lt_or_gt_of_ne hab with hlt | hgt
  · exact (realHalfTan_strictMono ha hb hlt).ne
  · exact (realHalfTan_strictMono hb ha hgt).ne'

theorem log_ratio_realHalfTan_ne_zero {a b : ℝ} (ha : |a| < Real.pi / 2)
    (hb : |b| < Real.pi / 2) (hab : a ≠ b) :
    Real.log (realHalfTan b / realHalfTan a) ≠ 0 := by
  have hpos := div_pos (realHalfTan_pos hb) (realHalfTan_pos ha)
  refine Real.log_ne_zero_of_pos_of_ne_one hpos ?_
  rw [ne_eq, div_eq_one_iff_eq (realHalfTan_pos ha).ne']
  exact (realHalfTan_ne ha hb hab).symm

/-- The test for one parallel, over the reals. -/
theorem isNear_iff (phi1 phi2 : ℝ) :
    Scalar.abs (finite phi1 - finite phi2) < parallelTolerance ↔
      |phi1 - phi2| < 1e-10 := by
  unfold parallelTolerance
  rw [Extended.finite_sub, Extended.abs_finite, Extended.decimal_eq, Extended.finite_lt]
  norm_num

theorem ne_of_not_near {phi1 phi2 : ℝ} (hfar : ¬|phi1 - phi2| < 1e-10) : phi1 ≠ phi2 := by
  rintro rfl
  apply hfar
  rw [sub_self, abs_zero]
  positivity

theorem coneConstantOf_finite {phi1 phi2 : ℝ} (h1 : |phi1| < Real.pi / 2)
    (h2 : |phi2| < Real.pi / 2) :
    coneConstantOf (finite phi1) (finite phi2) = finite (realConeConstant phi1 phi2) := by
  have htan1 := realHalfTan_pos h1
  have htan2 := realHalfTan_pos h2
  have hcos1 := cos_pos_of_abs_lt h1
  have hcos2 := cos_pos_of_abs_lt h2
  unfold coneConstantOf realConeConstant
  by_cases hnear : |phi1 - phi2| < 1e-10
  · rw [if_pos ((isNear_iff phi1 phi2).2 hnear), if_pos hnear, Extended.sin_finite]
  · have hlog := log_ratio_realHalfTan_ne_zero h1 h2 (ne_of_not_near hnear)
    rw [if_neg (mt (isNear_iff phi1 phi2).1 hnear), if_neg hnear, halfTan_finite h1,
      halfTan_finite h2, Extended.cos_finite, Extended.cos_finite,
      Extended.finite_div _ hcos2.ne', Extended.finite_div _ htan1.ne',
      Extended.log_finite (div_pos hcos1 hcos2), Extended.log_finite (div_pos htan2 htan1),
      Extended.finite_div _ hlog]

theorem coneConstantOf_radians_ne_zero_iff {lat1 lat2 : ℝ} (h1 : |lat1| < 90) (h2 : |lat2| < 90) :
    coneConstantOf (Angle.radians (finite lat1)) (Angle.radians (finite lat2)) ≠ 0 ↔
      realConeConstant (lat1 * (Real.pi / 180)) (lat2 * (Real.pi / 180)) ≠ 0 := by
  rw [Angle.radians_finite, Angle.radians_finite,
    coneConstantOf_finite (Angle.abs_latitude_lt h1) (Angle.abs_latitude_lt h2), Extended.zero_eq,
    Extended.finite_injective.ne_iff]

/-- The constant of two parallels does not depend on their order. -/
theorem secant_ratio_comm (a b : ℝ) :
    Real.log (Real.cos a / Real.cos b) / Real.log (realHalfTan b / realHalfTan a) =
      Real.log (Real.cos b / Real.cos a) / Real.log (realHalfTan a / realHalfTan b) := by
  rw [← inv_div (Real.cos b), ← inv_div (realHalfTan a), Real.log_inv, Real.log_inv,
    neg_div_neg_eq]

theorem abs_secant_ratio_lt_one {a b : ℝ} (ha : |a| < Real.pi / 2) (hb : |b| < Real.pi / 2)
    (hab : a < b) :
    |Real.log (Real.cos a / Real.cos b) / Real.log (realHalfTan b / realHalfTan a)| < 1 := by
  have hlog := log_ratio_realHalfTan_ne_zero ha hb hab.ne
  obtain ⟨c, hc, hratio⟩ := exists_sin_eq_ratio ha hb hab
  rw [← Real.log_div (cos_pos_of_abs_lt ha).ne' (cos_pos_of_abs_lt hb).ne',
    ← Real.log_div (realHalfTan_pos hb).ne' (realHalfTan_pos ha).ne'] at hratio
  rw [hratio, mul_div_cancel_right₀ _ hlog]
  exact abs_sin_lt_one hc

theorem abs_realConeConstant_lt_one {phi1 phi2 : ℝ} (h1 : |phi1| < Real.pi / 2)
    (h2 : |phi2| < Real.pi / 2) : |realConeConstant phi1 phi2| < 1 := by
  unfold realConeConstant
  split_ifs with hnear
  · exact abs_sin_lt_one h1
  · rcases lt_or_gt_of_ne (ne_of_not_near hnear) with hlt | hgt
    · exact abs_secant_ratio_lt_one h1 h2 hlt
    · rw [secant_ratio_comm]
      exact abs_secant_ratio_lt_one h2 h1 hgt

/-- Parallels on one side of the equator, or at different distances from it, have a cone and no
cylinder around them. -/
theorem realConeConstant_ne_zero {phi1 phi2 : ℝ} (h1 : |phi1| < Real.pi / 2)
    (h2 : |phi2| < Real.pi / 2) (hfar : 1e-10 ≤ |phi1 - phi2|) (hmirror : |phi1| ≠ |phi2|) :
    realConeConstant phi1 phi2 ≠ 0 := by
  have hpi := Real.pi_pos
  have hcos : Real.cos phi1 ≠ Real.cos phi2 := by
    rw [← Real.cos_abs phi1, ← Real.cos_abs phi2]
    intro heq
    exact hmirror (Real.injOn_cos ⟨abs_nonneg _, by linarith⟩ ⟨abs_nonneg _, by linarith⟩ heq)
  have hratio : Real.cos phi1 / Real.cos phi2 ≠ 1 := by
    rwa [ne_eq, div_eq_one_iff_eq (cos_pos_of_abs_lt h2).ne']
  have hlog := Real.log_ne_zero_of_pos_of_ne_one
    (div_pos (cos_pos_of_abs_lt h1) (cos_pos_of_abs_lt h2)) hratio
  unfold realConeConstant
  rw [if_neg hfar.not_gt]
  exact div_ne_zero hlog (log_ratio_realHalfTan_ne_zero h1 h2 (ne_of_not_near hfar.not_gt))

end Graticule.LambertConformal
