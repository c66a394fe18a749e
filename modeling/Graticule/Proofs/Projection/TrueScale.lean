import Graticule.Proofs.Projection.Cone

/-!
# Parallels that keep their length

A cone keeps the length of a parallel when it draws the parallel on a circle around its apex and at
the speed at which it is run through on the globe.  For the first standard parallel this is how the
scale of the cone is chosen, and for the second one how the cone constant is: it is the logarithm of
the ratio of the two parallels to the base of the ratio of their half tangents.
-/

namespace Graticule.LambertConformal

open Extended (finite)

/-! ## Standard parallels over the reals -/

def AreDistinguished (phi1 phi2 : ℝ) : Prop := phi1 = phi2 ∨ 1e-10 ≤ |phi1 - phi2|

theorem realHalfTan_ratio_rpow {phi1 phi2 : ℝ} (h1 : |phi1| < Real.pi / 2)
    (h2 : |phi2| < Real.pi / 2) (hfar : 1e-10 ≤ |phi1 - phi2|) :
    (realHalfTan phi2 / realHalfTan phi1) ^ realConeConstant phi1 phi2 =
      Real.cos phi1 / Real.cos phi2 := by
  have hratio := div_pos (realHalfTan_pos h2) (realHalfTan_pos h1)
  have hne : realHalfTan phi2 / realHalfTan phi1 ≠ 1 := by
    rw [ne_eq, div_eq_one_iff_eq (realHalfTan_pos h1).ne']
    exact (realHalfTan_ne h1 h2 (ne_of_not_near hfar.not_gt)).symm
  unfold realConeConstant
  rw [if_neg hfar.not_gt]
  exact Real.rpow_logb hratio hne (div_pos (cos_pos_of_abs_lt h1) (cos_pos_of_abs_lt h2))

/-- The cone has one scale for both its standard parallels. -/
theorem cos_mul_rpow_second {phi1 phi2 : ℝ} (h1 : |phi1| < Real.pi / 2)
    (h2 : |phi2| < Real.pi / 2) (hparallels : AreDistinguished phi1 phi2) :
    Real.cos phi2 * realHalfTan phi2 ^ realConeConstant phi1 phi2 =
      Real.cos phi1 * realHalfTan phi1 ^ realConeConstant phi1 phi2 := by
  rcases hparallels with rfl | hfar
  · rfl
  · have hratio := realHalfTan_ratio_rpow h1 h2 hfar
    have hpow := Real.rpow_pos_of_pos (realHalfTan_pos h1) (realConeConstant phi1 phi2)
    rw [Real.div_rpow (realHalfTan_pos h2).le (realHalfTan_pos h1).le,
      div_eq_div_iff hpow.ne' (cos_pos_of_abs_lt h2).ne'] at hratio
    rw [mul_comm, hratio]

theorem realConeScale_div_rpow {phi1 phi2 phi : ℝ} (h1 : |phi1| < Real.pi / 2)
    (h2 : |phi2| < Real.pi / 2) (hparallels : AreDistinguished phi1 phi2)
    (hphi : phi = phi1 ∨ phi = phi2) (radius : ℝ) :
    realConeScale phi1 phi2 radius / realHalfTan phi ^ realConeConstant phi1 phi2 =
      radius * Real.cos phi / realConeConstant phi1 phi2 := by
  have htan : 0 < realHalfTan phi := by
    rcases hphi with rfl | rfl
    · exact realHalfTan_pos h1
    · exact realHalfTan_pos h2
  have hpow := (Real.rpow_pos_of_pos htan (realConeConstant phi1 phi2)).ne'
  have hscale : Real.cos phi1 * realHalfTan phi1 ^ realConeConstant phi1 phi2 =
      Real.cos phi * realHalfTan phi ^ realConeConstant phi1 phi2 := by
    rcases hphi with rfl | rfl
    · rfl
    · exact (cos_mul_rpow_second h1 h2 hparallels).symm
  unfold realConeScale
  rw [hscale]
  field_simp

/-! ## Circles around the apex -/

noncomputable def apexDistance (c : LambertConformal (Extended ℝ)) (p : Position (Extended ℝ)) :
    Extended ℝ :=
  Elementary.hypot (p.x - c.falseEasting) (p.y - (c.falseNorthing + c.rho0))

/-- The parallel at `lat` degrees keeps its length on the plane. -/
structure KeepsLength (c : LambertConformal (Extended ℝ)) (lat : ℝ) : Prop where
  /-- It lies on the circle around the apex whose radius is that of the parallel over the cone
  constant. -/
  distance : ∀ lon : ℝ, c.apexDistance (c.forward ⟨finite lon, finite lat⟩) =
    c.radius * Elementary.cos (Angle.radians (finite lat)) / Scalar.abs c.n
  /-- By longitude from the central meridian it is drawn at the speed of the globe. -/
  speed : ∃ x y x' y' : ℝ → ℝ,
    (∀ lon dlon : ℝ, Angle.wrap (Angle.radians (finite lon) - c.lon0) = finite dlon →
      c.forward ⟨finite lon, finite lat⟩ = ⟨finite (x dlon), finite (y dlon)⟩) ∧
    ∀ dlon, HasDerivAt x (x' dlon) dlon ∧ HasDerivAt y (y' dlon) dlon ∧
      finite √(x' dlon ^ 2 + y' dlon ^ 2) =
        c.radius * Elementary.cos (Angle.radians (finite lat))

section

variable {c : LambertConformal (Extended ℝ)} {n lam0 scale falseEasting falseNorthing : ℝ}

/-- Whatever radius the circle of a parallel has, the apex is its centre. -/
theorem apexDistance_forward (h : Conic c n lam0 scale falseEasting falseNorthing) {rho0 : ℝ}
    (hrho0 : c.rho0 = finite rho0) (lon : ℝ) {lat : ℝ}
    (hphi : |lat * (Real.pi / 180)| < Real.pi / 2) :
    c.apexDistance (c.forward ⟨finite lon, finite lat⟩) =
      finite |scale / realHalfTan (lat * (Real.pi / 180)) ^ n| := by
  obtain ⟨k, hwrap, -⟩ := Angle.exists_wrap_eq (lon * (Real.pi / 180) - lam0)
  generalize lon * (Real.pi / 180) - lam0 + k * (2 * Real.pi) = dlon at hwrap
  rw [forward_polar h hwrap hphi]
  generalize scale / realHalfTan (lat * (Real.pi / 180)) ^ n = rho
  have hx : rho * Real.sin (n * dlon) + falseEasting - falseEasting =
      rho * Real.sin (n * dlon) := by ring
  have hy : (rho0 - rho * Real.cos (n * dlon) + falseNorthing - (falseNorthing + rho0)) ^ 2 =
      (rho * Real.cos (n * dlon)) ^ 2 := by ring
  unfold apexDistance
  rw [h.falseEasting, h.falseNorthing, hrho0, Extended.finite_sub, Extended.finite_sub,
    Extended.finite_add, Extended.finite_add, Extended.finite_sub, Extended.hypot_finite, hx, hy,
    Angle.sqrt_polar]

/-- The speed on the circle of a parallel is its radius times the cone constant. -/
theorem exists_speed_forward (h : Conic c n lam0 scale falseEasting falseNorthing) {rho0 : ℝ}
    (hrho0 : c.rho0 = finite rho0) {lat : ℝ} (hphi : |lat * (Real.pi / 180)| < Real.pi / 2) :
    ∃ x y x' y' : ℝ → ℝ,
      (∀ lon dlon : ℝ, Angle.wrap (Angle.radians (finite lon) - c.lon0) = finite dlon →
        c.forward ⟨finite lon, finite lat⟩ = ⟨finite (x dlon), finite (y dlon)⟩) ∧
      ∀ dlon, HasDerivAt x (x' dlon) dlon ∧ HasDerivAt y (y' dlon) dlon ∧
        √(x' dlon ^ 2 + y' dlon ^ 2) =
          |scale / realHalfTan (lat * (Real.pi / 180)) ^ n * n| := by
  set rho := scale / realHalfTan (lat * (Real.pi / 180)) ^ n with hrho
  refine ⟨fun dlon => rho * Real.sin (n * dlon) + falseEasting,
    fun dlon => rho0 - rho * Real.cos (n * dlon) + falseNorthing,
    fun dlon => rho * n * Real.cos (n * dlon), fun dlon => rho * n * Real.sin (n * dlon), ?_, ?_⟩
  · intro lon dlon hwrap
    rw [h.lon0, Angle.radians_finite, Extended.finite_sub] at hwrap
    rw [forward_polar h hwrap hphi, hrho0, Extended.finite_sub, Extended.finite_add]
  · intro dlon
    have hangle : HasDerivAt (fun x => n * x) n dlon := by
      simpa using (hasDerivAt_id dlon).const_mul n
    refine ⟨?_, ?_, ?_⟩
    · refine ((hangle.sin.const_mul rho).add_const falseEasting).congr_deriv ?_
      ring
    · refine (((hangle.cos.const_mul rho).const_sub rho0).add_const falseNorthing).congr_deriv ?_
      ring
    · rw [add_comm]
      exact Angle.sqrt_polar (rho * n) (n * dlon)

/-- From an apex that is no real place there are no distances. -/
theorem isFinite_of_apexDistance (h : Conic c n lam0 scale falseEasting falseNorthing) {lat d : ℝ}
    (hphi : |lat * (Real.pi / 180)| < Real.pi / 2) (lon : ℝ)
    (hd : c.apexDistance (c.forward ⟨finite lon, finite lat⟩) = finite d) :
    Scalar.isFinite c.rho0 = true := by
  obtain ⟨k, hwrap, -⟩ := Angle.exists_wrap_eq (lon * (Real.pi / 180) - lam0)
  rw [forward_polar h hwrap hphi] at hd
  unfold apexDistance at hd
  rw [h.falseEasting, h.falseNorthing, Extended.finite_sub] at hd
  generalize c.rho0 = rho0 at hd ⊢
  cases rho0 with
  | finite v => rfl
  | infinite s => cases s <;> exact nomatch hd
  | nan => exact nomatch hd

/-- The origin goes to the false origin when it lies at a real distance from the apex. -/
theorem forward_origin_iff {lon0 : ℝ} {lat0 : Extended ℝ}
    (h : Conic c n (lon0 * (Real.pi / 180)) scale falseEasting falseNorthing)
    (hrho0 : c.rho0 = c.radius * c.f / Elementary.pow (halfTan (Angle.radians lat0)) c.n) :
    c.forward ⟨finite lon0, lat0⟩ = ⟨finite falseEasting, finite falseNorthing⟩ ↔
      Scalar.isFinite c.rho0 = true := by
  have hwrap : Angle.wrap (Angle.radians (finite lon0) - c.lon0) = finite 0 := by
    rw [h.lon0, Angle.radians_finite, Extended.finite_sub, sub_self, Angle.wrap_zero]
  simp only [forward, centredLongitude]
  rw [hwrap, ← hrho0, h.coneConstant, h.falseEasting, h.falseNorthing, Extended.finite_mul,
    mul_zero, Extended.sin_finite, Extended.cos_finite, Real.sin_zero, Real.cos_zero]
  cases hfinite : Scalar.isFinite c.rho0 with
  | true =>
    obtain ⟨rho0, hreal⟩ := (Extended.isFinite_iff _).1 hfinite
    refine iff_of_true ?_ rfl
    rw [hreal, Extended.finite_mul, Extended.finite_mul, Extended.finite_add, Extended.finite_sub,
      Extended.finite_add, mul_zero, zero_add, mul_one, sub_self, zero_add]
  | false =>
    refine iff_of_false (fun hpoint => ?_) Bool.false_ne_true
    have hx := congrArg (fun p => Scalar.isFinite (Position.x p)) hpoint
    have hlost := Extended.not_isFinite_add (Extended.not_isFinite_mul hfinite (finite 0))
      (finite falseEasting)
    exact Bool.false_ne_true (hlost.symm.trans hx)

end

/-! ## The projection with its parallels in degrees -/

section

variable {lat0 : Extended ℝ} {lon0 lat1 lat2 radius falseEasting falseNorthing : ℝ}

theorem keepsLength_ofDegrees (h1 : |lat1| < 90) (h2 : |lat2| < 90) (hradius : 0 < radius)
    (hn : coneConstantOf (Angle.radians (finite lat1)) (Angle.radians (finite lat2)) ≠ 0)
    (hparallels : AreDistinguished (lat1 * (Real.pi / 180)) (lat2 * (Real.pi / 180)))
    {lat : ℝ} (hlat : lat = lat1 ∨ lat = lat2) :
    let c : LambertConformal (Extended ℝ) := ofDegrees lat0 (finite lon0) (finite lat1)
      (finite lat2) (finite radius) (finite falseEasting) (finite falseNorthing)
    c.KeepsLength lat ↔ Scalar.isFinite c.rho0 = true := by
  intro c
  have hc : Conic c _ _ _ falseEasting falseNorthing := conic_ofDegrees h1 h2 hradius hn
  have hphi1 := Angle.abs_latitude_lt h1
  have hphi2 := Angle.abs_latitude_lt h2
  have hphi : |lat * (Real.pi / 180)| < Real.pi / 2 := by
    rcases hlat with rfl | rfl
    · exact hphi1
    · exact hphi2
  have hrho := realConeScale_div_rpow hphi1 hphi2 hparallels
    (hlat.imp (congrArg (· * (Real.pi / 180))) (congrArg (· * (Real.pi / 180)))) radius
  have hlength : 0 < radius * Real.cos (lat * (Real.pi / 180)) :=
    mul_pos hradius (cos_pos_of_abs_lt hphi)
  have hglobe : c.radius * Elementary.cos (Angle.radians (finite lat)) =
      finite (radius * Real.cos (lat * (Real.pi / 180))) := by
    rw [Angle.radians_finite]
    rfl
  have hdistance : c.radius * Elementary.cos (Angle.radians (finite lat)) / Scalar.abs c.n =
      finite (radius * Real.cos (lat * (Real.pi / 180)) /
        |realConeConstant (lat1 * (Real.pi / 180)) (lat2 * (Real.pi / 180))|) := by
    rw [hglobe, hc.coneConstant, Extended.abs_finite,
      Extended.finite_div _ (abs_ne_zero.2 hc.ne_zero)]
  constructor
  · intro hkeeps
    exact isFinite_of_apexDistance hc hphi 0 ((hkeeps.distance 0).trans hdistance)
  · intro hfinite
    obtain ⟨rho0, hrho0⟩ := (Extended.isFinite_iff _).1 hfinite
    constructor
    · intro lon
      rw [apexDistance_forward hc hrho0 lon hphi, hrho, hdistance, abs_div, abs_of_pos hlength]
    · obtain ⟨x, y, x', y', hpoints, hspeed⟩ := exists_speed_forward hc hrho0 hphi
      refine ⟨x, y, x', y', hpoints, fun dlon => ?_⟩
      obtain ⟨hx, hy, hroot⟩ := hspeed dlon
      refine ⟨hx, hy, ?_⟩
      rw [hroot, hrho, div_mul_cancel₀ _ hc.ne_zero, abs_of_pos hlength, hglobe]

end

/-- A cone keeps the length of both its standard parallels, and takes its origin to the false
origin, exactly when the origin lies at a real distance from the apex; between the poles it does. -/
theorem true_on_standard_parallels (lat0 lon0 lat1 lat2 radius falseEasting falseNorthing : ℝ)
    (h1 : |lat1| < 90) (h2 : |lat2| < 90) (hradius : 0 < radius)
    (hn : coneConstantOf (Angle.radians (finite lat1)) (Angle.radians (finite lat2)) ≠ 0)
    (hparallels : AreDistinguished (lat1 * (Real.pi / 180)) (lat2 * (Real.pi / 180))) :
    let c : LambertConformal (Extended ℝ) := ofDegrees (finite lat0) (finite lon0) (finite lat1)
      (finite lat2) (finite radius) (finite falseEasting) (finite falseNorthing)
    (c.KeepsLength lat1 ↔ Scalar.isFinite c.rho0 = true) ∧
    (c.KeepsLength lat2 ↔ Scalar.isFinite c.rho0 = true) ∧
    (c.forward ⟨finite lon0, finite lat0⟩ = ⟨finite falseEasting, finite falseNorthing⟩ ↔
      Scalar.isFinite c.rho0 = true) ∧
    (|lat0| < 90 → Scalar.isFinite c.rho0 = true) := by
  intro c
  refine ⟨?_, ?_, ?_, ?_⟩
  · exact keepsLength_ofDegrees h1 h2 hradius hn hparallels (Or.inl rfl)
  · exact keepsLength_ofDegrees h1 h2 hradius hn hparallels (Or.inr rfl)
  · exact forward_origin_iff (conic_ofDegrees h1 h2 hradius hn) rfl
  · intro h0
    exact isFinite_rho0_ofDegrees lon0 falseEasting falseNorthing h0 h1 h2 hradius hn

/-- A southern cone that cuts the globe along the parallels of 60° and 30°. -/
theorem true_on_standard_parallels_southern :
    let c : LambertConformal (Extended ℝ) := ofDegrees (finite (-45)) (finite 25) (finite (-60))
      (finite (-30)) (finite 6371000) (finite 500000) (finite 0)
    c.KeepsLength (-60) ∧ c.KeepsLength (-30) ∧
      c.forward ⟨finite 25, finite (-45)⟩ = ⟨finite 500000, finite 0⟩ := by
  have h1 : |(-60 : ℝ)| < 90 := by norm_num [abs_of_neg]
  have h2 : |(-30 : ℝ)| < 90 := by norm_num [abs_of_neg]
  have hpi := Real.pi_gt_three
  have hgap : (-60 : ℝ) * (Real.pi / 180) - -30 * (Real.pi / 180) = -(Real.pi / 6) := by ring
  have hfar : 1e-10 ≤ |(-60 : ℝ) * (Real.pi / 180) - -30 * (Real.pi / 180)| := by
    rw [hgap, abs_neg, abs_of_pos (by positivity)]
    linarith
  have hmirror : |(-60 : ℝ) * (Real.pi / 180)| ≠ |-30 * (Real.pi / 180)| := by
    rw [abs_mul, abs_mul, abs_neg, abs_neg]
    intro heq
    have := mul_right_cancel₀ (abs_ne_zero.2 (by positivity)) heq
    norm_num at this
  have hn := (coneConstantOf_radians_ne_zero_iff h1 h2).2
    (realConeConstant_ne_zero (Angle.abs_latitude_lt h1) (Angle.abs_latitude_lt h2) hfar hmirror)
  obtain ⟨hfirst, hsecond, horigin, hreal⟩ := true_on_standard_parallels (-45) 25 (-60) (-30)
    6371000 500000 0 h1 h2 (by norm_num) hn (Or.inr hfar)
  have hfinite := hreal (by norm_num [abs_of_neg])
  exact ⟨hfirst.2 hfinite, hsecond.2 hfinite, horigin.2 hfinite⟩

/-- The origin of a northern cone at the South Pole goes nowhere, and its parallel is at no distance
from the apex. -/
theorem not_true_from_opposite_pole :
    let c : LambertConformal (Extended ℝ) := ofDegrees (finite (-90)) (finite 0) (finite 30)
      (finite 30) (finite 6371000) (finite 0) (finite 0)
    c.n = finite (1 / 2) ∧ ¬c.KeepsLength 30 ∧
      c.forward ⟨finite 0, finite (-90)⟩ ≠ ⟨finite 0, finite 0⟩ := by
  intro c
  have hthirty : |(30 : ℝ)| < 90 := by norm_num [abs_of_pos]
  have hconstant : realConeConstant (30 * (Real.pi / 180)) (30 * (Real.pi / 180)) = 1 / 2 := by
    have hsixth : 30 * (Real.pi / 180) = Real.pi / 6 := by ring
    rw [realConeConstant_self, hsixth, Real.sin_pi_div_six]
  have hnorth : 0 < realConeConstant (30 * (Real.pi / 180)) (30 * (Real.pi / 180)) := by
    rw [hconstant]
    positivity
  have hn := (coneConstantOf_radians_ne_zero_iff hthirty hthirty).2 hnorth.ne'
  have hradius : (0 : ℝ) < 6371000 := by norm_num
  have hc : Conic c _ _ _ 0 0 := conic_ofDegrees hthirty hthirty hradius hn
  have hlost := not_isFinite_rho0_opposite_pole 0 0 0 hthirty hthirty hradius hn hnorth
  refine ⟨?_, ?_, ?_⟩
  · rw [hc.coneConstant, hconstant]
  · intro hkeeps
    have hreal := (keepsLength_ofDegrees hthirty hthirty hradius hn (Or.inl rfl) (Or.inl rfl)).1
      hkeeps
    exact Bool.false_ne_true (hlost.symm.trans hreal)
  · intro horigin
    exact Bool.false_ne_true (hlost.symm.trans ((forward_origin_iff hc rfl).1 horigin))

end Graticule.LambertConformal
