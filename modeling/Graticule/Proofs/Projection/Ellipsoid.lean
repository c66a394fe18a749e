import Graticule.Projection.Mercator
import Graticule.Projection.PolarStereographic
import Graticule.Proofs.Projection.Latitude

/-!
# Projections of an ellipsoid

Over the reals a Mercator projection with a scale, and a polar stereographic projection with a
positive one, take a place to a plane point from which the inverse reads the longitude back up to
whole turns and the isometric variable exactly.  What is left to the inverse is the latitude of this
variable.
-/

namespace Graticule

open Extended (finite)

/-! ## Mercator -/

namespace Mercator

structure Cylinder (m : Mercator (Extended ℝ))
    (e scale lam0 falseEasting falseNorthing : ℝ) : Prop where
  eccentricity : m.ellipsoid.eccentricity = finite e
  equatorScale : m.equatorScale = finite scale
  lon0 : m.lon0 = finite lam0
  falseEasting : m.falseEasting = finite falseEasting
  falseNorthing : m.falseNorthing = finite falseNorthing

theorem cylinder_ofDegrees {E : Ellipsoid (Extended ℝ)} {a e : ℝ} (ha : E.a = finite a)
    (he : E.eccentricity = finite e) (lon0 k0 falseEasting falseNorthing : ℝ) :
    Cylinder (ofDegrees E (finite lon0) (finite k0) (finite falseEasting) (finite falseNorthing))
      e (a * k0) (lon0 * (Real.pi / 180)) falseEasting falseNorthing where
  eccentricity := he
  equatorScale := congrArg (· * finite k0) ha
  lon0 := Angle.radians_finite lon0
  falseEasting := rfl
  falseNorthing := rfl

section

variable {m : Mercator (Extended ℝ)} {e scale lam0 falseEasting falseNorthing : ℝ}

theorem forward_eq (h : Cylinder m e scale lam0 falseEasting falseNorthing) (he : |e| < 1)
    {lon lat dlon : ℝ} (hdlon : Angle.wrap (finite (lon * (Real.pi / 180) - lam0)) = finite dlon)
    (hphi : |lat * (Real.pi / 180)| < Real.pi / 2) :
    let t := Latitude.realIsometric (lat * (Real.pi / 180)) e
    m.forward ⟨finite lon, finite lat⟩ =
      ⟨finite (falseEasting + scale * dlon), finite (falseNorthing - scale * Real.log t)⟩ := by
  intro t
  simp only [forward, centredLongitude]
  rw [h.eccentricity, h.equatorScale, h.lon0, h.falseEasting, h.falseNorthing,
    Angle.radians_finite, Angle.radians_finite, Extended.finite_sub, hdlon,
    Latitude.isometric_finite he hphi, Extended.log_finite (Latitude.realIsometric_pos he hphi),
    Extended.finite_mul, Extended.finite_add, Extended.finite_mul, Extended.finite_sub]

theorem inverse_eq (h : Cylinder m e scale lam0 falseEasting falseNorthing) (hscale : scale ≠ 0)
    (dlon : ℝ) {t : ℝ} (ht : 0 < t) :
    m.inverse ⟨finite (falseEasting + scale * dlon), finite (falseNorthing - scale * Real.log t)⟩ =
      ⟨Angle.degrees (Angle.wrap (finite (lam0 + dlon))),
        Angle.degrees (Latitude.ofIsometric (finite t) (finite e))⟩ := by
  have hx : (finite (falseEasting + scale * dlon) - finite falseEasting) / finite scale =
      finite dlon := by
    rw [Extended.finite_sub, Extended.finite_div _ hscale, add_sub_cancel_left,
      mul_div_cancel_left₀ _ hscale]
  have hy : -(finite (falseNorthing - scale * Real.log t) - finite falseNorthing) / finite scale =
      finite (Real.log t) := by
    rw [Extended.finite_sub, Extended.finite_neg, Extended.finite_div _ hscale,
      sub_sub_cancel_left, neg_neg, mul_div_cancel_left₀ _ hscale]
  simp only [inverse, planeLongitude]
  rw [h.eccentricity, h.equatorScale, h.lon0, h.falseEasting, h.falseNorthing, hx, hy,
    Extended.finite_add, Extended.exp_finite, Real.exp_log ht]

/-- Back from the plane the longitude has gone some whole turns, and the isometric variable is that
of the latitude. -/
theorem exists_inverse_forward (h : Cylinder m e scale lam0 falseEasting falseNorthing)
    (he : |e| < 1) (hscale : scale ≠ 0) (lon : ℝ) {lat : ℝ} (hlat : |lat| < 90) :
    ∃ k : ℤ, m.inverse (m.forward ⟨finite lon, finite lat⟩) =
      ⟨Angle.degrees (Angle.wrap (finite (lon * (Real.pi / 180) + k * (2 * Real.pi)))),
        Angle.degrees (Latitude.ofIsometric
          (finite (Latitude.realIsometric (lat * (Real.pi / 180)) e)) (finite e))⟩ := by
  have hphi := Angle.abs_latitude_lt hlat
  obtain ⟨k, hwrap, -⟩ := Angle.exists_wrap_eq (lon * (Real.pi / 180) - lam0)
  refine ⟨k, ?_⟩
  rw [forward_eq h he hwrap hphi, inverse_eq h hscale _ (Latitude.realIsometric_pos he hphi)]
  congr 4
  ring

end

end Mercator

/-! ## Polar stereographic -/

namespace PolarStereographic

def side (south : Bool) : ℤ := if south then -1 else 1

theorem side_mul_self (south : Bool) : (side south : ℝ) * side south = 1 := by
  cases south <;> norm_num [side]

theorem abs_side_mul (south : Bool) (x : ℝ) : |(side south : ℝ) * x| = |x| := by
  cases south <;> simp [side]

/-- From its own pole, which counts, to the opposite one, which does not. -/
theorem side_mul_within {south : Bool} {latTs : ℝ}
    (hopposite : if south then latTs < 90 else -90 < latTs)
    (hown : if south then -90 ≤ latTs else latTs ≤ 90) :
    -90 < side south * latTs ∧ side south * latTs ≤ 90 := by
  cases south with
  | false =>
    rw [side, if_neg Bool.false_ne_true, Int.cast_one, one_mul]
    exact ⟨hopposite, hown⟩
  | true =>
    rw [side, if_pos rfl, Int.cast_neg, Int.cast_one, neg_one_mul]
    exact ⟨neg_lt_neg hopposite, neg_le.1 hown⟩

theorem facing_finite (s : PolarStereographic (Extended ℝ)) (x : ℝ) :
    s.facing (finite x) = finite (side s.south * x) := by
  unfold facing side
  cases s.south
  · simp
  · simp [Extended.finite_neg]

/-- The plane at a pole is as far out as any parallel but the opposite pole asks for. -/
theorem exists_radiusScaleOf_eq {E : Ellipsoid (Extended ℝ)} {a e latTs : ℝ} (hE : E.a = finite a)
    (heccentricity : E.eccentricity = finite e) (he : |e| < 1) (ha : 0 < a) (hlow : -90 < latTs)
    (hhigh : latTs ≤ 90) :
    ∃ r, 0 < r ∧ radiusScaleOf E (Angle.radians (finite latTs)) = finite r := by
  simp only [radiusScaleOf]
  rw [hE, heccentricity, Angle.radians_finite, Angle.right_eq, Extended.finite_sub,
    Extended.abs_finite]
  split_ifs with hpole
  · obtain ⟨hminus, hplus⟩ := abs_lt.1 he
    have hplus : 0 < 1 + e := by linarith
    have hminus : 0 < 1 - e := by linarith
    have hproduct := mul_pos (Real.rpow_pos_of_pos hplus (1 + e))
      (Real.rpow_pos_of_pos hminus (1 - e))
    have hroot := Real.sqrt_pos.2 hproduct
    refine ⟨_, div_pos (mul_pos two_pos ha) hroot, ?_⟩
    rw [Extended.one_eq, Extended.finite_add, Extended.finite_sub, Extended.pow_finite hplus,
      Extended.pow_finite hminus, Extended.finite_mul, Extended.sqrt_finite hproduct.le,
      Extended.ofNat_eq, Extended.finite_mul, Extended.finite_div _ hroot.ne']
  · have hne : latTs ≠ 90 := by
      rintro rfl
      apply hpole
      unfold poleTolerance
      rw [Extended.decimal_eq, Extended.finite_lt,
        show (90 : ℝ) * (Real.pi / 180) - Real.pi / 2 = 0 by ring, abs_zero]
      positivity
    have hphi := Angle.abs_latitude_lt (abs_lt.2 ⟨hlow, lt_of_le_of_ne hhigh hne⟩)
    have ht := Latitude.realIsometric_pos he hphi
    obtain ⟨p, hp, hparallel⟩ := Latitude.exists_parallelRadius_eq he hphi
    refine ⟨_, div_pos (mul_pos ha hp) ht, ?_⟩
    rw [hparallel, Latitude.isometric_finite he hphi, Extended.finite_mul,
      Extended.finite_div _ ht.ne']

structure Plane (s : PolarStereographic (Extended ℝ)) (e r lam0 falseEasting falseNorthing : ℝ) :
    Prop where
  eccentricity : s.ellipsoid.eccentricity = finite e
  radiusScale : s.radiusScale = finite r
  lon0 : s.lon0 = finite lam0
  falseEasting : s.falseEasting = finite falseEasting
  falseNorthing : s.falseNorthing = finite falseNorthing

theorem exists_plane_ofDegrees {E : Ellipsoid (Extended ℝ)} {a e latTs : ℝ} (south : Bool)
    (hE : E.a = finite a) (heccentricity : E.eccentricity = finite e) (he : |e| < 1)
    (lon0 falseEasting falseNorthing : ℝ) (ha : 0 < a) (hlow : -90 < side south * latTs)
    (hhigh : side south * latTs ≤ 90) :
    ∃ r, 0 < r ∧ Plane (ofDegrees E south (finite latTs) (finite lon0) (finite falseEasting)
      (finite falseNorthing)) e r (lon0 * (Real.pi / 180)) falseEasting falseNorthing := by
  have hturned : (if south then -finite latTs else finite latTs : Extended ℝ) =
      finite (side south * latTs) := by
    cases south
    · simp [side]
    · simp [side, Extended.finite_neg]
  obtain ⟨r, hr, hscale⟩ := exists_radiusScaleOf_eq hE heccentricity he ha hlow hhigh
  rw [← hturned] at hscale
  exact ⟨r, hr, heccentricity, hscale, Angle.radians_finite lon0, rfl, rfl⟩

section

variable {s : PolarStereographic (Extended ℝ)} {e r lam0 falseEasting falseNorthing : ℝ}

/-- The polar coordinates of a plane point are the scaled isometric variable and the longitude from
the straight meridian, both as seen from the pole. -/
theorem forward_polar (h : Plane s e r lam0 falseEasting falseNorthing) (he : |e| < 1)
    {lon lat dlon : ℝ} (hdlon : Angle.wrap (finite (lon * (Real.pi / 180) - lam0)) = finite dlon)
    (hphi : |lat * (Real.pi / 180)| < Real.pi / 2) :
    let rho := r * Latitude.realIsometric (side s.south * (lat * (Real.pi / 180))) e
    let theta := side s.south * dlon
    s.forward ⟨finite lon, finite lat⟩ =
      ⟨finite (side s.south * (rho * Real.sin theta) + falseEasting),
        finite (side s.south * (-rho * Real.cos theta) + falseNorthing)⟩ := by
  intro rho theta
  rw [← abs_side_mul s.south] at hphi
  simp only [forward, centredLongitude]
  rw [h.radiusScale, h.lon0, h.falseEasting, h.falseNorthing, h.eccentricity, Angle.radians_finite,
    Angle.radians_finite, Extended.finite_sub, hdlon, facing_finite, facing_finite,
    Latitude.isometric_finite he hphi, Extended.finite_mul, Extended.sin_finite,
    Extended.cos_finite, Extended.finite_neg, Extended.finite_mul, Extended.finite_mul,
    facing_finite, facing_finite, Extended.finite_add, Extended.finite_add]

theorem fromPole_polar (h : Plane s e r lam0 falseEasting falseNorthing) (rho theta : ℝ) :
    s.fromPole ⟨finite (side s.south * (rho * Real.sin theta) + falseEasting),
        finite (side s.south * (-rho * Real.cos theta) + falseNorthing)⟩ =
      ⟨finite (rho * Real.sin theta), finite (-(rho * Real.cos theta))⟩ := by
  have hunit := side_mul_self s.south
  unfold fromPole
  rw [h.falseEasting, h.falseNorthing, Extended.finite_sub, Extended.finite_sub, facing_finite,
    facing_finite, add_sub_cancel_right, add_sub_cancel_right, ← mul_assoc, hunit, one_mul,
    ← mul_assoc, hunit, one_mul, neg_mul]

theorem distance_polar (h : Plane s e r lam0 falseEasting falseNorthing) {rho : ℝ} (hrho : 0 < rho)
    (theta : ℝ) :
    s.distance ⟨finite (side s.south * (rho * Real.sin theta) + falseEasting),
        finite (side s.south * (-rho * Real.cos theta) + falseNorthing)⟩ = finite rho := by
  unfold distance
  rw [fromPole_polar h, Extended.hypot_finite, neg_sq, Angle.sqrt_polar, abs_of_pos hrho]

theorem inverse_polar (h : Plane s e r lam0 falseEasting falseNorthing) {rho theta : ℝ}
    (hr : r ≠ 0) (hrho : 0 < rho) (htheta : |theta| ≤ Real.pi) :
    ∃ k : ℤ, s.inverse ⟨finite (side s.south * (rho * Real.sin theta) + falseEasting),
        finite (side s.south * (-rho * Real.cos theta) + falseNorthing)⟩ =
      ⟨Angle.degrees (Angle.wrap (finite (lam0 + side s.south * theta + k * (2 * Real.pi)))),
        Angle.degrees (s.facing (Latitude.ofIsometric (finite (rho / r)) (finite e)))⟩ := by
  have hzero : ¬(finite rho == (0 : Extended ℝ)) = true := by
    rw [Extended.zero_eq, Extended.finite_beq, decide_eq_true_iff]
    exact hrho.ne'
  obtain ⟨k, hk⟩ := Angle.exists_atan2_polar hrho htheta
  refine ⟨side s.south * k, ?_⟩
  simp only [inverse, planeLongitude]
  rw [distance_polar h hrho, fromPole_polar h, h.radiusScale, h.lon0, h.eccentricity, if_neg hzero,
    Extended.finite_neg, neg_neg, hk, facing_finite, Extended.finite_add, Extended.finite_div _ hr]
  congr 4
  push_cast
  ring

/-- Back from the plane the longitude has gone some whole turns, and the isometric variable is that
of the latitude as seen from the pole. -/
theorem exists_inverse_forward (h : Plane s e r lam0 falseEasting falseNorthing) (he : |e| < 1)
    (hr : 0 < r) (lon : ℝ) {lat : ℝ} (hlat : |lat| < 90) :
    ∃ k : ℤ, s.inverse (s.forward ⟨finite lon, finite lat⟩) =
      ⟨Angle.degrees (Angle.wrap (finite (lon * (Real.pi / 180) + k * (2 * Real.pi)))),
        Angle.degrees (s.facing (Latitude.ofIsometric
          (finite (Latitude.realIsometric (side s.south * (lat * (Real.pi / 180))) e))
          (finite e)))⟩ := by
  have hphi := Angle.abs_latitude_lt hlat
  have hseen : |(side s.south : ℝ) * (lat * (Real.pi / 180))| < Real.pi / 2 := by
    rwa [abs_side_mul]
  have ht := Latitude.realIsometric_pos he hseen
  obtain ⟨k, hwrap, hwithin⟩ := Angle.exists_wrap_eq (lon * (Real.pi / 180) - lam0)
  rw [← abs_side_mul s.south] at hwithin
  obtain ⟨j, hinverse⟩ := inverse_polar h hr.ne' (mul_pos hr ht) hwithin
  refine ⟨k + j, ?_⟩
  have hturns : lam0 + side s.south * (side s.south * (lon * (Real.pi / 180) - lam0 +
      k * (2 * Real.pi))) + j * (2 * Real.pi) =
        lon * (Real.pi / 180) + (k + j : ℤ) * (2 * Real.pi) := by
    rw [← mul_assoc (side s.south : ℝ), side_mul_self]
    push_cast
    ring
  rw [forward_polar h he hwrap hphi, hinverse, mul_div_cancel_left₀ _ hr.ne', hturns]

end

end PolarStereographic

end Graticule
