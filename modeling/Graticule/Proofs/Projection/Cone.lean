import Graticule.Proofs.Projection.ConeConstant

/-!
# Cones around a sphere

The plane point of a longitude and latitude has polar coordinates around the apex of the cone, and
the inverse of a Lambert conformal projection finds them again over the reals.  Seen from the apex
the meridians fill less than a whole turn, so the angle there is found as it was, without a turn too
many or too few.
-/

namespace Graticule.LambertConformal

open Extended (finite)

/-- The sign of a cone constant: one when the apex is above the north pole. -/
noncomputable def apexSign (n : ℝ) : ℝ := if n < 0 then -1 else 1

theorem sign_finite (n : ℝ) : Scalar.sign (finite n) = finite (apexSign n) := rfl

theorem apexSign_mul_self (n : ℝ) : apexSign n * apexSign n = 1 := by
  unfold apexSign
  split_ifs <;> norm_num

theorem apexSign_mul_pos {n : ℝ} (hn : n ≠ 0) : 0 < apexSign n * n := by
  unfold apexSign
  split_ifs with hneg
  · linarith
  · rw [one_mul]
    exact lt_of_le_of_ne (not_lt.1 hneg) hn.symm

theorem apexSign_div_pos {n : ℝ} (hn : n ≠ 0) : 0 < apexSign n / n := by
  have hsign : apexSign n / n = apexSign n * n / n ^ 2 := by field_simp
  rw [hsign]
  exact div_pos (apexSign_mul_pos hn) (by positivity)

/-- A conic projection whose parameters are real, the origin apart, on a cone that has an apex. -/
structure Conic (c : LambertConformal (Extended ℝ)) (n lam0 scale falseEasting falseNorthing : ℝ) :
    Prop where
  coneConstant : c.n = finite n
  lon0 : c.lon0 = finite lam0
  coneScale : c.radius * c.f = finite scale
  falseEasting : c.falseEasting = finite falseEasting
  falseNorthing : c.falseNorthing = finite falseNorthing
  ne_zero : n ≠ 0
  abs_lt_one : |n| < 1
  scale_pos : 0 < apexSign n * scale

/-- The distance from the apex to the equator, over the reals. -/
noncomputable def realConeScale (phi1 phi2 radius : ℝ) : ℝ :=
  radius * (Real.cos phi1 * realHalfTan phi1 ^ realConeConstant phi1 phi2 /
    realConeConstant phi1 phi2)

theorem apexSign_mul_realConeScale_pos {phi1 phi2 radius : ℝ} (h1 : |phi1| < Real.pi / 2)
    (hradius : 0 < radius) (hn : realConeConstant phi1 phi2 ≠ 0) :
    0 < apexSign (realConeConstant phi1 phi2) * realConeScale phi1 phi2 radius := by
  have hcos := cos_pos_of_abs_lt h1
  have hpow := Real.rpow_pos_of_pos (realHalfTan_pos h1) (realConeConstant phi1 phi2)
  have hproduct (n u v : ℝ) : apexSign n * (radius * (u * v / n)) =
      apexSign n / n * (radius * (u * v)) := by ring
  unfold realConeScale
  rw [hproduct]
  exact mul_pos (apexSign_div_pos hn) (mul_pos hradius (mul_pos hcos hpow))

theorem conic_ofDegrees {lat0 : Extended ℝ} {lon0 lat1 lat2 radius falseEasting falseNorthing : ℝ}
    (h1 : |lat1| < 90) (h2 : |lat2| < 90) (hradius : 0 < radius)
    (hn : coneConstantOf (Angle.radians (finite lat1)) (Angle.radians (finite lat2)) ≠ 0) :
    Conic (ofDegrees lat0 (finite lon0) (finite lat1) (finite lat2) (finite radius)
      (finite falseEasting) (finite falseNorthing))
        (realConeConstant (lat1 * (Real.pi / 180)) (lat2 * (Real.pi / 180)))
        (lon0 * (Real.pi / 180))
        (realConeScale (lat1 * (Real.pi / 180)) (lat2 * (Real.pi / 180)) radius)
        falseEasting falseNorthing := by
  have hphi1 := Angle.abs_latitude_lt h1
  have hphi2 := Angle.abs_latitude_lt h2
  have hcone := coneConstantOf_finite hphi1 hphi2
  rw [← Angle.radians_finite, ← Angle.radians_finite] at hcone
  have hne := (coneConstantOf_radians_ne_zero_iff h1 h2).1 hn
  constructor
  case coneConstant => exact hcone
  case lon0 => exact Angle.radians_finite lon0
  case coneScale =>
    change finite radius * (Elementary.cos (Angle.radians (finite lat1)) *
      Elementary.pow (halfTan (Angle.radians (finite lat1))) (coneConstantOf _ _) /
        coneConstantOf _ _) = _
    rw [hcone, Angle.radians_finite, halfTan_finite hphi1, Extended.cos_finite,
      Extended.pow_finite (realHalfTan_pos hphi1), Extended.finite_mul, Extended.finite_div _ hne,
      Extended.finite_mul]
    rfl
  case falseEasting => rfl
  case falseNorthing => rfl
  case ne_zero => exact hne
  case abs_lt_one => exact abs_realConeConstant_lt_one hphi1 hphi2
  case scale_pos => exact apexSign_mul_realConeScale_pos hphi1 hradius hne

section

variable {c : LambertConformal (Extended ℝ)} {n lam0 scale falseEasting falseNorthing : ℝ}

theorem forward_polar (h : Conic c n lam0 scale falseEasting falseNorthing)
    {lon lat dlon : ℝ} (hdlon : Angle.wrap (finite (lon * (Real.pi / 180) - lam0)) = finite dlon)
    (hphi : |lat * (Real.pi / 180)| < Real.pi / 2) :
    let rho := scale / realHalfTan (lat * (Real.pi / 180)) ^ n
    c.forward ⟨finite lon, finite lat⟩ =
      ⟨finite (rho * Real.sin (n * dlon) + falseEasting),
        c.rho0 - finite (rho * Real.cos (n * dlon)) + finite falseNorthing⟩ := by
  intro rho
  have htan := realHalfTan_pos hphi
  have hpow := Real.rpow_pos_of_pos htan n
  simp only [forward, centredLongitude]
  rw [h.coneConstant, h.lon0, h.coneScale, h.falseEasting, h.falseNorthing,
    Angle.radians_finite, Angle.radians_finite, Extended.finite_sub, hdlon, halfTan_finite hphi,
    Extended.pow_finite htan, Extended.finite_div _ hpow.ne', Extended.finite_mul,
    Extended.sin_finite, Extended.cos_finite, Extended.finite_mul, Extended.finite_mul,
    Extended.finite_add]

theorem fromApex_polar (h : Conic c n lam0 scale falseEasting falseNorthing) {rho0 : ℝ}
    (hrho0 : c.rho0 = finite rho0) (rho theta : ℝ) :
    c.fromApex ⟨finite (rho * Real.sin theta + falseEasting),
        c.rho0 - finite (rho * Real.cos theta) + finite falseNorthing⟩ =
      ⟨finite (apexSign n * rho * Real.sin theta),
        finite (apexSign n * rho * Real.cos theta)⟩ := by
  simp only [fromApex]
  rw [h.coneConstant, hrho0, h.falseEasting, h.falseNorthing, sign_finite, Extended.finite_sub,
    Extended.finite_mul, Extended.finite_sub, Extended.finite_add, Extended.finite_sub,
    Extended.finite_sub, Extended.finite_mul]
  congr 2 <;> ring

theorem inverse_polar (h : Conic c n lam0 scale falseEasting falseNorthing) {rho0 : ℝ}
    (hrho0 : c.rho0 = finite rho0) {t dlon : ℝ} (ht : 0 < t) (hdlon : |dlon| ≤ Real.pi) :
    let rho := scale / t ^ n
    c.inverse ⟨finite (rho * Real.sin (n * dlon) + falseEasting),
        c.rho0 - finite (rho * Real.cos (n * dlon)) + finite falseNorthing⟩ =
      ⟨Angle.degrees (Angle.wrap (finite (lam0 + dlon))),
        Angle.degrees (finite (2 * Real.arctan t - Real.pi / 2))⟩ := by
  intro rho
  have hpi := Real.pi_pos
  have hpow := Real.rpow_pos_of_pos ht n
  have hrho : 0 < apexSign n * rho := by
    rw [← mul_div_assoc]
    exact div_pos h.scale_pos hpow
  have hback : apexSign n * rho * apexSign n = rho := by
    rw [mul_right_comm, apexSign_mul_self, one_mul]
  have hne : rho ≠ 0 := right_ne_zero_of_mul hrho.ne'
  have hzero : ¬(finite rho == (0 : Extended ℝ)) = true := by
    rw [Extended.zero_eq, Extended.finite_beq, decide_eq_true_iff]
    exact hne
  have hscale : scale ≠ 0 := right_ne_zero_of_mul h.scale_pos.ne'
  have hratio : scale / rho = t ^ n := div_div_cancel₀ hscale
  -- less than half a turn to either side of the apex, so the angle there is found as it was
  have htheta : |n * dlon| < Real.pi := by
    rw [abs_mul]
    nlinarith [h.abs_lt_one, abs_nonneg n, abs_nonneg dlon]
  rw [abs_lt] at htheta
  simp only [inverse, planeLongitude]
  rw [fromApex_polar h hrho0, h.coneConstant, h.lon0, h.coneScale, sign_finite,
    Extended.hypot_finite, Angle.sqrt_polar, abs_of_pos hrho, Extended.finite_mul, hback,
    if_neg hzero, Extended.finite_div _ hne, hratio, Extended.one_eq, Extended.finite_div _ h.ne_zero,
    Extended.pow_finite hpow, ← Real.rpow_mul ht.le, mul_one_div_cancel h.ne_zero, Real.rpow_one,
    Extended.atan_finite, Angle.atan2_polar hrho htheta.1 htheta.2.le,
    Extended.finite_div _ h.ne_zero, mul_div_cancel_left₀ _ h.ne_zero, Extended.finite_add,
    Angle.right_eq, Extended.ofNat_eq, Extended.finite_mul, Extended.finite_sub]

/-- An origin that is no real number makes every northing so, and no angle at the apex is left. -/
theorem inverse_x_of_not_isFinite (h : Conic c n lam0 scale falseEasting falseNorthing)
    (hrho0 : ¬Scalar.isFinite c.rho0 = true) (x : Extended ℝ) (v : ℝ) :
    (c.inverse ⟨x, c.rho0 - finite v + finite falseNorthing⟩).x = .nan := by
  have hy : (c.rho0 - (c.rho0 - finite v + finite falseNorthing - finite falseNorthing)) *
      Scalar.sign c.n = .nan := by
    generalize c.rho0 = rho0 at hrho0
    cases rho0 with
    | finite w => exact absurd rfl hrho0
    | infinite s => cases s <;> rfl
    | nan => rfl
  have hangle (u : Extended ℝ) : Elementary.atan2 u (.nan : Extended ℝ) = .nan := by
    cases u <;> rfl
  simp only [inverse, planeLongitude, fromApex]
  rw [h.falseNorthing, hy, hangle, h.coneConstant, h.lon0]
  rfl

end

/-- Between the poles every parallel lies at a real distance from the apex. -/
theorem isFinite_rho0_ofDegrees {lat0 lat1 lat2 radius : ℝ} (lon0 falseEasting falseNorthing : ℝ)
    (h0 : |lat0| < 90) (h1 : |lat1| < 90) (h2 : |lat2| < 90) (hradius : 0 < radius)
    (hn : coneConstantOf (Angle.radians (finite lat1)) (Angle.radians (finite lat2)) ≠ 0) :
    Scalar.isFinite (ofDegrees (finite lat0) (finite lon0) (finite lat1) (finite lat2)
      (finite radius) (finite falseEasting) (finite falseNorthing)).rho0 = true := by
  let c : LambertConformal (Extended ℝ) := ofDegrees (finite lat0) (finite lon0) (finite lat1)
    (finite lat2) (finite radius) (finite falseEasting) (finite falseNorthing)
  obtain ⟨n, scale, hc⟩ : ∃ n scale,
      Conic c n (lon0 * (Real.pi / 180)) scale falseEasting falseNorthing :=
    ⟨_, _, conic_ofDegrees h1 h2 hradius hn⟩
  have hphi0 := Angle.abs_latitude_lt h0
  have hpow := Real.rpow_pos_of_pos (realHalfTan_pos hphi0) n
  have hrho0 : c.rho0 =
      finite scale / Elementary.pow (halfTan (Angle.radians (finite lat0))) (finite n) := by
    rw [← hc.coneScale, ← hc.coneConstant]
    rfl
  change Scalar.isFinite c.rho0 = true
  rw [hrho0, Angle.radians_finite, halfTan_finite hphi0,
    Extended.pow_finite (realHalfTan_pos hphi0), Extended.finite_div _ hpow.ne',
    Extended.isFinite_finite]

/-- The pole opposite the apex of a northern cone lies at no real distance from it. -/
theorem not_isFinite_rho0_opposite_pole {lat1 lat2 radius : ℝ}
    (lon0 falseEasting falseNorthing : ℝ) (h1 : |lat1| < 90) (h2 : |lat2| < 90)
    (hradius : 0 < radius)
    (hn : coneConstantOf (Angle.radians (finite lat1)) (Angle.radians (finite lat2)) ≠ 0)
    (hnorth : 0 < realConeConstant (lat1 * (Real.pi / 180)) (lat2 * (Real.pi / 180))) :
    Scalar.isFinite (ofDegrees (finite (-90)) (finite lon0) (finite lat1) (finite lat2)
      (finite radius) (finite falseEasting) (finite falseNorthing)).rho0 = false := by
  let c : LambertConformal (Extended ℝ) := ofDegrees (finite (-90)) (finite lon0) (finite lat1)
    (finite lat2) (finite radius) (finite falseEasting) (finite falseNorthing)
  obtain ⟨n, scale, hc, hpositive⟩ : ∃ n scale,
      Conic c n (lon0 * (Real.pi / 180)) scale falseEasting falseNorthing ∧ 0 < n :=
    ⟨_, _, conic_ofDegrees h1 h2 hradius hn, hnorth⟩
  have hangle : Angle.halfRight + Angle.radians (finite (-90)) / 2 = (finite 0 : Extended ℝ) := by
    rw [Angle.halfRight_eq, Angle.radians_finite, Extended.ofNat_eq,
      Extended.finite_div _ two_ne_zero, Extended.finite_add]
    congr 1
    ring
  have htan : halfTan (Angle.radians (finite (-90 : ℝ))) = finite 0 := by
    unfold halfTan
    rw [hangle, Extended.tan_finite (by rw [Real.cos_zero]; exact one_ne_zero), Real.tan_zero]
  have hpow : Elementary.pow (finite (0 : ℝ)) (finite n) = finite 0 := by
    change Extended.realPower 0 n = finite 0
    unfold Extended.realPower
    rw [if_neg (lt_irrefl 0), if_pos rfl, if_neg hpositive.ne', if_neg hpositive.not_gt]
  have hscale : scale ≠ 0 := right_ne_zero_of_mul hc.scale_pos.ne'
  change Scalar.isFinite (c.radius * c.f /
    Elementary.pow (halfTan (Angle.radians (finite (-90)))) c.n) = false
  rw [hc.coneScale, hc.coneConstant, htan, hpow]
  change Scalar.isFinite (if (0 : ℝ) = 0 then if scale = 0 then Extended.nan else
    Extended.infinite (Extended.isNegative scale) else _) = false
  rw [if_pos rfl, if_neg hscale]
  rfl

/-- The inverse of a conic projection undoes it when its origin lies at a real distance from the
apex, and only then. -/
theorem inverse_forward_sphere_iff {lat0 : Extended ℝ} {lon0 lat1 lat2 radius falseEasting
    falseNorthing : ℝ} (h1 : |lat1| < 90) (h2 : |lat2| < 90) (hradius : 0 < radius)
    (hn : coneConstantOf (Angle.radians (finite lat1)) (Angle.radians (finite lat2)) ≠ 0)
    {lon lat : ℝ} (hlon : |lon| < 180) (hlat : |lat| < 90) :
    let c : LambertConformal (Extended ℝ) := ofDegrees lat0 (finite lon0) (finite lat1)
      (finite lat2) (finite radius) (finite falseEasting) (finite falseNorthing)
    c.inverse (c.forward ⟨finite lon, finite lat⟩) = ⟨finite lon, finite lat⟩ ↔
      Scalar.isFinite c.rho0 = true := by
  intro c
  have hphi := Angle.abs_latitude_lt hlat
  obtain ⟨n, scale, hc⟩ : ∃ n scale,
      Conic c n (lon0 * (Real.pi / 180)) scale falseEasting falseNorthing :=
    ⟨_, _, conic_ofDegrees h1 h2 hradius hn⟩
  obtain ⟨k, hwrap, hwithin⟩ :=
    Angle.exists_wrap_eq (lon * (Real.pi / 180) - lon0 * (Real.pi / 180))
  rw [forward_polar hc hwrap hphi]
  constructor
  · intro hround
    by_contra hfinite
    have hx := congrArg Position.x hround
    rw [inverse_x_of_not_isFinite hc hfinite] at hx
    exact nomatch hx
  · intro hfinite
    obtain ⟨rho0, hrho0⟩ := (Extended.isFinite_iff _).1 hfinite
    have hturns : lon0 * (Real.pi / 180) + (lon * (Real.pi / 180) - lon0 * (Real.pi / 180) +
        k * (2 * Real.pi)) = lon * (Real.pi / 180) + k * (2 * Real.pi) := by
      ring
    have hlatitude : 2 * Real.arctan (realHalfTan (lat * (Real.pi / 180))) - Real.pi / 2 =
        lat * (Real.pi / 180) := by
      rw [abs_lt] at hphi
      rw [realHalfTan_eq, Real.arctan_tan (by linarith) (by linarith)]
      ring
    rw [inverse_polar hc hrho0 (realHalfTan_pos hphi) hwithin, hturns, hlatitude,
      Angle.wrap_eq k rfl (Angle.abs_longitude_lt hlon), Angle.degrees_radians_finite,
      Angle.degrees_radians_finite]

end Graticule.LambertConformal
