import Graticule.Projection.Basic
import Graticule.Proofs.Projection.Ellipsoid

/-!
# Latitudes that come back from the plane

On an ellipsoid the latitude that an inverse projection gives is near the one that was projected, by
a bound that only the eccentricity decides.  For a Mercator projection this holds when it has a
scale, and for a polar stereographic one when its scale is positive; otherwise the latitude is lost:
`Projection.latitude_recovered`.
-/

namespace Graticule

open Extended (finite)

namespace Latitude

/-- The steps toward `phi` from the isometric variable `t`. -/
structure IsApproached (t e phi : ℝ) : Prop where
  fixed : ∀ x, refine (finite t) (finite e) (finite x) = finite x ↔ x = phi
  contracts : ∀ x y, ∃ u v, refine (finite t) (finite e) (finite x) = finite u ∧
    refine (finite t) (finite e) (finite y) = finite v ∧ |u - v| ≤ e ^ 2 * |x - y|
  near : ∃ psi, ofIsometric (finite t) (finite e) = finite psi ∧ |psi - phi| ≤ errorBound e
  exact : e = 0 → ofIsometric (finite t) (finite e) = finite phi

theorem isApproached_realIsometric {e phi : ℝ} (he : e ^ 2 ≤ 1 / 2) (hphi : |phi| < Real.pi / 2) :
    IsApproached (realIsometric phi e) e phi := by
  have hlt := abs_lt_one_of_sq_le he
  have hfixed := realRefine_realIsometric hlt hphi
  constructor
  · intro x
    rw [refine_finite hlt]
    constructor
    · intro hx
      exact eq_of_realRefine_eq he (Extended.finite_injective hx) hfixed
    · rintro rfl
      rw [hfixed]
  · intro x y
    exact ⟨_, _, refine_finite hlt _ x, refine_finite hlt _ y, abs_realRefine_sub_le he _ x y⟩
  · exact exists_ofIsometric_eq he hphi
  · rintro rfl
    exact ofIsometric_realIsometric_sphere hphi

/-! ## Variables that no latitude has -/

theorem right_sub_nan : (Angle.right - 2 * Elementary.atan .nan : Extended ℝ) = .nan := by
  rw [Angle.right_eq]
  rfl

theorem refine_nan (e phi : Extended ℝ) : refine .nan e phi = .nan := by
  have hproduct (x : Extended ℝ) : (.nan * x : Extended ℝ) = .nan := by cases x <;> rfl
  unfold refine
  rw [hproduct, right_sub_nan]

theorem ofIsometric_nan (e : Extended ℝ) : ofIsometric .nan e = .nan := by
  have hsteps (n : ℕ) : approach .nan e n .nan = .nan := by
    induction n with
    | zero => rfl
    | succ n ih =>
      simp only [approach, refine_nan]
      split_ifs
      · rfl
      · exact ih
  unfold ofIsometric
  rw [right_sub_nan, hsteps]

/-- From a negative variable every step leads beyond the pole. -/
theorem exists_approach_beyond {e t : ℝ} (he : |e| < 1) (ht : t < 0) (n : ℕ) (x : ℝ) :
    ∃ psi, approach (finite t) (finite e) (n + 1) (finite x) = finite psi ∧ Real.pi / 2 < psi := by
  have hbeyond (x : ℝ) : Real.pi / 2 < realRefine t e x := by
    have hpow := Real.rpow_pos_of_pos (realSineRatio_pos he x) (e / 2)
    have harctan := Real.arctan_lt_zero.2 (mul_neg_of_neg_of_pos ht hpow)
    rw [realRefine_eq]
    linarith
  induction n generalizing x with
  | zero =>
    refine ⟨realRefine t e x, ?_, hbeyond x⟩
    simp only [approach, refine_finite he, Extended.finite_sub, Extended.finite_add,
      add_sub_cancel, ite_self]
  | succ n ih =>
    rw [approach]
    simp only [refine_finite he, Extended.finite_sub, Extended.finite_add, add_sub_cancel]
    split_ifs
    · exact ⟨realRefine t e x, rfl, hbeyond x⟩
    · exact ih (realRefine t e x)

theorem exists_ofIsometric_beyond {e t : ℝ} (he : |e| < 1) (ht : t < 0) :
    ∃ psi, ofIsometric (finite t) (finite e) = finite psi ∧ Real.pi / 2 < psi := by
  unfold ofIsometric
  rw [firstGuess_eq]
  exact exists_approach_beyond he ht 29 _

theorem realIsometric_equator (e : ℝ) : realIsometric 0 e = 1 := by
  rw [realIsometric_eq, realSineRatio, Real.sin_zero, mul_zero, sub_zero, add_zero, div_one,
    Real.one_rpow, div_one, zero_div, sub_zero, Real.tan_pi_div_four]

theorem errorBound_lt {e : ℝ} (he : e ^ 2 ≤ 1 / 2) : errorBound e < Real.pi / 2 := by
  have hpi := Real.pi_gt_three
  have hpower : e ^ 60 ≤ (1 / 2) ^ 30 := by
    have : e ^ 60 = (e ^ 2) ^ 30 := by ring
    rw [this]
    gcongr
  unfold errorBound
  apply max_lt
  · linarith
  · calc Real.pi * e ^ 60 ≤ Real.pi * (1 / 2) ^ 30 := by gcongr
      _ < Real.pi / 2 := by linarith

end Latitude

namespace Projection

/-- Back from the plane every latitude between the poles is within a bound in radians of what it
was. -/
structure RecoversLatitude (p : Projection (Extended ℝ)) (bound : ℝ) : Prop where
  near : ∀ lon lat : ℝ, |lat| < 90 →
    ∃ lat', (p.inverse (p.forward ⟨finite lon, finite lat⟩)).y = finite lat' ∧
      |lat' - lat| * (Real.pi / 180) ≤ bound

end Projection

open Projection (RecoversLatitude)

/-! ## Mercator -/

namespace Mercator

variable {m : Mercator (Extended ℝ)} {e scale lam0 falseEasting falseNorthing : ℝ}

/-- Without a scale the whole globe goes to one point. -/
theorem inverse_forward_of_no_scale (h : Cylinder m e 0 lam0 falseEasting falseNorthing)
    (he : |e| < 1) (lon : ℝ) {lat : ℝ} (hlat : |lat| < 90) :
    (m.inverse (m.forward ⟨finite lon, finite lat⟩)).y = .nan := by
  obtain ⟨k, hwrap, -⟩ := Angle.exists_wrap_eq (lon * (Real.pi / 180) - lam0)
  rw [forward_eq h he hwrap (Angle.abs_latitude_lt hlat), zero_mul, zero_mul, sub_zero]
  simp only [inverse]
  rw [h.equatorScale, h.falseNorthing, Extended.finite_sub, Extended.finite_neg, sub_self,
    neg_zero, Extended.zero_div_zero]
  exact congrArg Angle.degrees (Latitude.ofIsometric_nan _)

theorem recoversLatitude_iff (h : Cylinder m e scale lam0 falseEasting falseNorthing)
    (he : e ^ 2 ≤ 1 / 2) :
    RecoversLatitude (.mercator m) (Latitude.errorBound e) ↔ scale ≠ 0 := by
  have hlt := Latitude.abs_lt_one_of_sq_le he
  constructor
  · rintro hrecovers rfl
    have hequator : |(0 : ℝ)| < 90 := by norm_num
    obtain ⟨lat, hlat, -⟩ := hrecovers.near 0 0 hequator
    have hlost := inverse_forward_of_no_scale h hlt 0 hequator
    cases hlost.symm.trans hlat
  · intro hscale
    constructor
    intro lon lat hlat
    obtain ⟨k, hround⟩ := exists_inverse_forward h hlt hscale lon hlat
    obtain ⟨psi, hpsi, hnear⟩ := Latitude.exists_ofIsometric_eq he (Angle.abs_latitude_lt hlat)
    refine ⟨psi * (180 / Real.pi), ?_, ?_⟩
    · change (m.inverse (m.forward ⟨finite lon, finite lat⟩)).y = _
      rw [hround, hpsi, Angle.degrees_finite]
    · rw [Angle.abs_degrees_sub]
      exact hnear

end Mercator

/-! ## Polar stereographic -/

namespace PolarStereographic

variable {s : PolarStereographic (Extended ℝ)} {e r lam0 falseEasting falseNorthing : ℝ}

theorem recoversLatitude_of_pos (h : Plane s e r lam0 falseEasting falseNorthing)
    (he : e ^ 2 ≤ 1 / 2) (hr : 0 < r) :
    RecoversLatitude (.polarStereographic s) (Latitude.errorBound e) := by
  constructor
  intro lon lat hlat
  have hseen : |(side s.south : ℝ) * (lat * (Real.pi / 180))| < Real.pi / 2 := by
    rw [abs_side_mul]
    exact Angle.abs_latitude_lt hlat
  obtain ⟨k, hround⟩ := exists_inverse_forward h (Latitude.abs_lt_one_of_sq_le he) hr lon hlat
  obtain ⟨psi, hpsi, hnear⟩ := Latitude.exists_ofIsometric_eq he hseen
  refine ⟨side s.south * psi * (180 / Real.pi), ?_, ?_⟩
  · change (s.inverse (s.forward ⟨finite lon, finite lat⟩)).y = _
    rw [hround, hpsi, facing_finite, Angle.degrees_finite]
  · have hturned : side s.south * psi - lat * (Real.pi / 180) =
        side s.south * (psi - side s.south * (lat * (Real.pi / 180))) := by
      rw [mul_sub, ← mul_assoc (side s.south : ℝ) (side s.south : ℝ), side_mul_self, one_mul]
    rw [Angle.abs_degrees_sub, hturned, abs_side_mul]
    exact hnear

theorem inverse_y (s : PolarStereographic (Extended ℝ)) (p : Position (Extended ℝ)) :
    (s.inverse p).y = Angle.degrees (s.facing (Latitude.ofIsometric
      (Elementary.hypot (s.facing (p.x - s.falseEasting)) (s.facing (p.y - s.falseNorthing)) /
        s.radiusScale) s.ellipsoid.eccentricity)) := rfl

theorem degrees_facing_nan (s : PolarStereographic (Extended ℝ)) :
    Angle.degrees (s.facing .nan) = .nan := by
  have hfacing : s.facing .nan = .nan := ite_self _
  rw [hfacing]
  unfold Angle.degrees
  generalize (180 / Elementary.pi : Extended ℝ) = unit
  cases unit <;> rfl

theorem not_isFinite_facing (s : PolarStereographic (Extended ℝ)) {x : Extended ℝ}
    (hx : Scalar.isFinite x = false) : Scalar.isFinite (s.facing x) = false := by
  unfold facing
  split_ifs
  · exact Extended.not_isFinite_neg hx
  · exact hx

/-- On a plane that is infinitely far out every distance is lost. -/
theorem inverse_forward_of_not_isFinite (hr : Scalar.isFinite s.radiusScale = false)
    (p : Position (Extended ℝ)) : (s.inverse (s.forward p)).y = .nan := by
  have hx : Scalar.isFinite (s.facing ((s.forward p).x - s.falseEasting)) = false :=
    not_isFinite_facing s <| Extended.not_isFinite_add (Extended.not_isFinite_add
      (not_isFinite_facing s (Extended.not_isFinite_mul (Extended.not_isFinite_mul hr _) _)) _) _
  rw [inverse_y, Extended.div_eq_nan (Extended.not_isFinite_hypot hx _) hr,
    Latitude.ofIsometric_nan, degrees_facing_nan]

/-- On a plane at no distance the whole globe goes to the pole. -/
theorem inverse_forward_of_no_scale (h : Plane s e 0 lam0 falseEasting falseNorthing)
    (he : |e| < 1) (lon : ℝ) {lat : ℝ} (hlat : |lat| < 90) :
    (s.inverse (s.forward ⟨finite lon, finite lat⟩)).y = .nan := by
  obtain ⟨k, hwrap, -⟩ := Angle.exists_wrap_eq (lon * (Real.pi / 180) - lam0)
  have hhypot : Elementary.hypot (finite (0 : ℝ)) (finite 0) = finite 0 := by
    rw [Extended.hypot_finite]
    norm_num
  rw [forward_polar h he hwrap (Angle.abs_latitude_lt hlat), zero_mul, neg_zero, zero_mul,
    zero_mul, mul_zero, zero_add, zero_add, inverse_y, h.falseEasting, h.falseNorthing,
    h.radiusScale, Extended.finite_sub, Extended.finite_sub, sub_self, sub_self, facing_finite,
    mul_zero, hhypot, Extended.zero_div_zero, Latitude.ofIsometric_nan, degrees_facing_nan]

/-- Through a plane behind the pole the equator comes back from beyond it. -/
theorem exists_inverse_forward_equator (h : Plane s e r lam0 falseEasting falseNorthing)
    (he : |e| < 1) (hr : r < 0) :
    ∃ lon psi, Real.pi / 2 < psi ∧
      (s.inverse (s.forward ⟨finite lon, finite 0⟩)).y =
        finite (side s.south * psi * (180 / Real.pi)) := by
  have hpi := Real.pi_pos
  have hwrap : Angle.wrap (finite (lam0 * (180 / Real.pi) * (Real.pi / 180) - lam0)) =
      finite 0 := by
    have hzero : lam0 * (180 / Real.pi) * (Real.pi / 180) - lam0 = 0 := by
      field_simp
      ring
    rw [hzero, Angle.wrap_zero]
  have hequator : |(0 : ℝ) * (Real.pi / 180)| < Real.pi / 2 := by
    rw [zero_mul, abs_zero]
    positivity
  obtain ⟨psi, hpsi, hbeyond⟩ := Latitude.exists_ofIsometric_beyond he (neg_one_lt_zero (R := ℝ))
  obtain ⟨k, hinverse⟩ := inverse_polar h hr.ne (neg_pos.2 hr) (abs_of_pos hpi).le
  refine ⟨lam0 * (180 / Real.pi), psi, hbeyond, ?_⟩
  -- the opposite direction at the opposite distance
  have hx : r * Real.sin 0 = -r * Real.sin Real.pi := by simp
  have hy : -r * Real.cos 0 = - -r * Real.cos Real.pi := by simp
  rw [forward_polar h he hwrap hequator, zero_mul, mul_zero,
    Latitude.realIsometric_equator, mul_one, hx, hy, hinverse, neg_div_self hr.ne, hpsi,
    facing_finite, Angle.degrees_finite]

theorem recoversLatitude_iff (heccentricity : s.ellipsoid.eccentricity = finite e)
    (hlon0 : s.lon0 = finite lam0) (hx : s.falseEasting = finite falseEasting)
    (hy : s.falseNorthing = finite falseNorthing) (he : e ^ 2 ≤ 1 / 2) :
    RecoversLatitude (.polarStereographic s) (Latitude.errorBound e) ↔
      ∃ r, 0 < r ∧ s.radiusScale = finite r := by
  have hlt := Latitude.abs_lt_one_of_sq_le he
  have hplane {r : ℝ} (hr : s.radiusScale = finite r) :
      Plane s e r lam0 falseEasting falseNorthing := ⟨heccentricity, hr, hlon0, hx, hy⟩
  have hequator : |(0 : ℝ)| < 90 := by norm_num
  constructor
  · intro hrecovers
    cases hfinite : Scalar.isFinite s.radiusScale with
    | false =>
      obtain ⟨lat, hlat, -⟩ := hrecovers.near 0 0 hequator
      cases (inverse_forward_of_not_isFinite hfinite _).symm.trans hlat
    | true =>
      obtain ⟨r, hr⟩ := (Extended.isFinite_iff _).1 hfinite
      refine ⟨r, ?_, hr⟩
      rcases lt_trichotomy r 0 with hneg | rfl | hpos
      · obtain ⟨lon, psi, hbeyond, hback⟩ := exists_inverse_forward_equator (hplane hr) hlt hneg
        obtain ⟨lat, hlat, hnear⟩ := hrecovers.near lon 0 hequator
        have hpsi : side s.south * psi * (180 / Real.pi) = lat :=
          Extended.finite_injective (hback.symm.trans hlat)
        rw [← hpsi, Angle.abs_degrees_sub, zero_mul, sub_zero, abs_side_mul] at hnear
        have hbound := Latitude.errorBound_lt he
        have hself := le_abs_self psi
        linarith
      · obtain ⟨lat, hlat, -⟩ := hrecovers.near 0 0 hequator
        cases (inverse_forward_of_no_scale (hplane hr) hlt 0 hequator).symm.trans hlat
      · exact hpos
  · rintro ⟨r, hpos, hr⟩
    exact recoversLatitude_of_pos (hplane hr) he hpos

end PolarStereographic

/-! ## Both -/

namespace Projection

/-- Up to an eccentricity of `√(1/2)` the steps approach every latitude.  So a Mercator projection
recovers latitudes exactly when it has a scale, and a polar stereographic one exactly when its scale
is a positive number, as it is for a parallel of true scale anywhere but at the opposite pole. -/
theorem latitude_recovered :
    (∀ e phi : ℝ, e ^ 2 ≤ 1 / 2 → |phi| < Real.pi / 2 →
      ∃ t, Latitude.isometric (finite phi) (finite e) = finite t ∧
        Latitude.IsApproached t e phi) ∧
    (∀ a f lon0 k0 falseEasting falseNorthing : ℝ, 0 ≤ f * (2 - f) → f * (2 - f) ≤ 1 / 2 →
      (RecoversLatitude (.mercator (.ofDegrees ⟨finite a, finite f⟩ (finite lon0) (finite k0)
        (finite falseEasting) (finite falseNorthing))) (Latitude.errorBound √(f * (2 - f))) ↔
          a * k0 ≠ 0)) ∧
    ∀ (south : Bool) (a f latTs lon0 falseEasting falseNorthing : ℝ), 0 ≤ f * (2 - f) →
      f * (2 - f) ≤ 1 / 2 →
      let s : PolarStereographic (Extended ℝ) := .ofDegrees ⟨finite a, finite f⟩ south
        (finite latTs) (finite lon0) (finite falseEasting) (finite falseNorthing)
      (RecoversLatitude (.polarStereographic s) (Latitude.errorBound √(f * (2 - f))) ↔
        ∃ r, 0 < r ∧ s.radiusScale = finite r) ∧
      (0 < a → (if south then latTs < 90 else -90 < latTs) →
        (if south then -90 ≤ latTs else latTs ≤ 90) → ∃ r, 0 < r ∧ s.radiusScale = finite r) := by
  have hsquare {f : ℝ} (hlow : 0 ≤ f * (2 - f)) (hhigh : f * (2 - f) ≤ 1 / 2) :
      √(f * (2 - f)) ^ 2 ≤ 1 / 2 := by
    rwa [Real.sq_sqrt hlow]
  refine ⟨?_, ?_, ?_⟩
  · intro e phi he hphi
    exact ⟨_, Latitude.isometric_finite (Latitude.abs_lt_one_of_sq_le he) hphi,
      Latitude.isApproached_realIsometric he hphi⟩
  · intro a f lon0 k0 falseEasting falseNorthing hlow hhigh
    exact Mercator.recoversLatitude_iff (Mercator.cylinder_ofDegrees rfl
      (Latitude.eccentricity_finite a hlow) lon0 k0 falseEasting falseNorthing)
      (hsquare hlow hhigh)
  · intro south a f latTs lon0 falseEasting falseNorthing hlow hhigh s
    refine ⟨PolarStereographic.recoversLatitude_iff (Latitude.eccentricity_finite a hlow)
      (Angle.radians_finite lon0) rfl rfl (hsquare hlow hhigh), ?_⟩
    intro ha hopposite hown
    have hlt := Latitude.abs_lt_one_of_sq_le (hsquare hlow hhigh)
    have hwithin := PolarStereographic.side_mul_within hopposite hown
    obtain ⟨r, hr, hplane⟩ := PolarStereographic.exists_plane_ofDegrees south rfl
      (Latitude.eccentricity_finite a hlow) hlt lon0 falseEasting falseNorthing ha hwithin.1
      hwithin.2
    exact ⟨r, hr, hplane.radiusScale⟩

noncomputable def worldFlattening : ℝ := 1 / 298.257223563

theorem wgs84_eq : (Ellipsoid.wgs84 : Ellipsoid (Extended ℝ)) =
    ⟨finite 6378137, finite worldFlattening⟩ := by
  unfold Ellipsoid.wgs84 worldFlattening
  rw [Extended.one_eq, Extended.decimal_eq, Extended.finite_div _ (by norm_num), Extended.ofNat_eq]
  congr 2
  norm_num

/-- The plane at the South Pole and the cylinder around the middle of the Pacific. -/
theorem latitude_recovered_antarctic_pacific :
    (∃ t, Latitude.isometric (finite 1) (finite (1 / 2)) = finite t ∧
      Latitude.IsApproached t (1 / 2) 1) ∧
    RecoversLatitude (.mercator .pacific)
      (Latitude.errorBound √(worldFlattening * (2 - worldFlattening))) ∧
    RecoversLatitude (.polarStereographic .antarctic)
      (Latitude.errorBound √(worldFlattening * (2 - worldFlattening))) := by
  have hlow : 0 ≤ worldFlattening * (2 - worldFlattening) := by
    norm_num [worldFlattening]
  have hhigh : worldFlattening * (2 - worldFlattening) ≤ 1 / 2 := by
    norm_num [worldFlattening]
  refine ⟨?_, ?_, ?_⟩
  · refine latitude_recovered.1 (1 / 2) 1 (by norm_num) ?_
    have hpi := Real.pi_gt_three
    rw [abs_one]
    linarith
  · unfold Mercator.pacific
    rw [wgs84_eq, Extended.zero_eq, Extended.one_eq, Extended.ofNat_eq]
    exact (latitude_recovered.2.1 6378137 worldFlattening 150 1 0 0 hlow hhigh).2 (by norm_num)
  · have hsouth := latitude_recovered.2.2 true 6378137 worldFlattening (-71) 0 0 0 hlow hhigh
    unfold PolarStereographic.antarctic
    rw [wgs84_eq, Extended.zero_eq, Extended.ofNat_eq, Extended.finite_neg]
    exact hsouth.1.2 (hsouth.2 (by norm_num) (by norm_num) (by norm_num))

/-- On a sphere without a scale the latitude of 10° north is lost. -/
theorem not_recoversLatitude_of_no_scale :
    let m : Mercator (Extended ℝ) :=
      .ofDegrees (.sphere (finite 1)) (finite 0) (finite 0) (finite 0) (finite 0)
    m.ellipsoid.eccentricity = finite 0 ∧
      (m.inverse (m.forward ⟨finite 0, finite 10⟩)).y = .nan ∧
      ¬RecoversLatitude (.mercator m) (Latitude.errorBound 0) := by
  intro m
  have heccentricity := Latitude.eccentricity_sphere 1
  have hcylinder := Mercator.cylinder_ofDegrees rfl heccentricity 0 0 0 0
  rw [mul_zero] at hcylinder
  have hlost : (m.inverse (m.forward ⟨finite 0, finite 10⟩)).y = .nan :=
    Mercator.inverse_forward_of_no_scale hcylinder (by norm_num) 0 (by norm_num)
  refine ⟨heccentricity, hlost, fun hrecovers => ?_⟩
  obtain ⟨lat, hlat, -⟩ := hrecovers.near 0 10 (by norm_num)
  cases hlost.symm.trans hlat

end Projection

end Graticule
