import Graticule.Proofs.Geometry.Antimeridian
import Graticule.Proofs.Projection.Sphere

/-!
# Mercator projections across the antimeridian

Whether a Mercator projection of a sphere is continuous across the antimeridian is decided by its
central meridian.  Where this is away from Greenwich, one of the two longitudes beside the
antimeridian is wrapped, so that they lie side by side as seen from the central meridian, and so do
their points: `Angle.exists_wrap_beside`.  Near Greenwich neither is wrapped, and the points lie at
the two ends of the plane.
-/

namespace Graticule

open Extended (finite)

namespace Angle

/-! ## Two longitudes beside the antimeridian -/

/-- Seen from a central meridian, the longitudes on both sides of the antimeridian lie side by side,
unless the central meridian lies between their opposites. -/
theorem exists_wrap_beside {lam0 eps : ℝ} (hlow : -Real.pi < lam0) (hhigh : lam0 ≤ Real.pi)
    (heps : 0 < eps) (hsmall : eps < Real.pi / 2) :
    ∃ west east, wrap (finite (Real.pi - eps - lam0)) = finite west ∧
      wrap (finite (-Real.pi + eps - lam0)) = finite east ∧
      west - east = if eps < |lam0| then -(2 * eps) else 2 * Real.pi - 2 * eps := by
  rcases lt_or_ge eps lam0 with hpositive | hle
  · -- the eastern longitude is wrapped forward
    refine ⟨Real.pi - eps - lam0, Real.pi + eps - lam0, ?_, ?_, ?_⟩
    · apply wrap_of_abs_le
      rw [abs_le]
      constructor <;> linarith
    · apply wrap_eq (-1)
      · push_cast
        ring
      · rw [abs_lt]
        constructor <;> linarith
    · rw [if_pos (hpositive.trans_le (le_abs_self lam0))]
      ring
  · rcases lt_or_ge lam0 (-eps) with hnegative | hge
    · -- the western longitude is wrapped back
      refine ⟨-Real.pi - eps - lam0, -Real.pi + eps - lam0, ?_, ?_, ?_⟩
      · apply wrap_eq 1
        · push_cast
          ring
        · rw [abs_lt]
          constructor <;> linarith
      · apply wrap_of_abs_le
        rw [abs_le]
        constructor <;> linarith
      · rw [if_pos (lt_abs.2 (Or.inr (lt_neg.1 hnegative)))]
        ring
    · refine ⟨Real.pi - eps - lam0, -Real.pi + eps - lam0, ?_, ?_, ?_⟩
      · apply wrap_of_abs_le
        rw [abs_le]
        constructor <;> linarith
      · apply wrap_of_abs_le
        rw [abs_le]
        constructor <;> linarith
      · rw [if_neg (abs_le.2 ⟨hge, hle⟩).not_gt]
        ring

end Angle

namespace Mercator

/-! ## The points of the plane beside the antimeridian -/

variable {radius lon0 k0 eps lat : ℝ}

/-- Both points lie at one height, as far apart as their longitudes from the central meridian
are. -/
theorem isSmooth_iff_gap (falseEasting falseNorthing : ℝ) {west east : ℝ}
    (hwest : Angle.wrap (finite (Real.pi - eps * (Real.pi / 180) - lon0 * (Real.pi / 180))) =
      finite west)
    (heast : Angle.wrap (finite (-Real.pi + eps * (Real.pi / 180) - lon0 * (Real.pi / 180))) =
      finite east)
    (hscale : radius * k0 ≠ 0) (heps : 0 < eps) (hsmall : eps < 360) (hlat : |lat| < 90) :
    let m : Mercator (Extended ℝ) := ofDegrees (.sphere (finite radius)) (finite lon0) (finite k0)
      (finite falseEasting) (finite falseNorthing)
    Antimeridian.isSmooth (finite lat) m.inverse m.forward (finite eps) = true ↔
      (radius * k0 * (west - east)) ^ 2 ≤ 1 := by
  intro m
  have hm : Cylinder m 0 (radius * k0) (lon0 * (Real.pi / 180)) falseEasting falseNorthing :=
    cylinder_ofDegrees rfl (Latitude.eccentricity_sphere radius) lon0 k0 falseEasting falseNorthing
  have hzero : |(0 : ℝ)| < 1 := by
    rw [abs_zero]
    exact one_pos
  have hphi := Angle.abs_latitude_lt hlat
  have hwestLon : (180 - eps) * (Real.pi / 180) - lon0 * (Real.pi / 180) =
      Real.pi - eps * (Real.pi / 180) - lon0 * (Real.pi / 180) := by ring
  have heastLon : (-180 + eps) * (Real.pi / 180) - lon0 * (Real.pi / 180) =
      -Real.pi + eps * (Real.pi / 180) - lon0 * (Real.pi / 180) := by ring
  rw [← hwestLon] at hwest
  rw [← heastLon] at heast
  let y := falseNorthing -
    radius * k0 * Real.log (Latitude.realIsometric (lat * (Real.pi / 180)) 0)
  have hwestPoint : m.forward (Position.finite ⟨180 - eps, lat⟩) =
      Position.finite ⟨falseEasting + radius * k0 * west, y⟩ := forward_eq hm hzero hwest hphi
  have heastPoint : m.forward (Position.finite ⟨-180 + eps, lat⟩) =
      Position.finite ⟨falseEasting + radius * k0 * east, y⟩ := forward_eq hm hzero heast hphi
  have hback (lon : ℝ) (hlon : |lon| < 180) :
      m.inverse (m.forward (Position.finite ⟨lon, lat⟩)) = Position.finite ⟨lon, lat⟩ :=
    inverse_forward_sphere lon0 falseEasting falseNorthing hscale hlon hlat
  have hfromWest := hback (180 - eps) (by rw [abs_lt]; constructor <;> linarith)
  have hfromEast := hback (-180 + eps) (by rw [abs_lt]; constructor <;> linarith)
  rw [hwestPoint] at hfromWest
  rw [heastPoint] at hfromEast
  have hgap : (falseEasting + radius * k0 * west - (falseEasting + radius * k0 * east)) ^ 2 +
      (y - y) ^ 2 = (radius * k0 * (west - east)) ^ 2 := by ring
  rw [Antimeridian.isSmooth_iff_of_returns hwestPoint heastPoint hfromWest hfromEast, hgap]

/-- A Mercator projection of a sphere is continuous across the antimeridian exactly when its central
meridian lies farther than the two longitudes beside the antimeridian from Greenwich and the plane
is not so large that their points lie more than a unit apart. -/
theorem isSmooth_iff_lon0 (radius lon0 k0 falseEasting falseNorthing eps lat : ℝ)
    (hlow : -180 < lon0) (hhigh : lon0 ≤ 180) (hscale : 1 ≤ radius * k0) (heps : 0 < eps)
    (hsmall : eps ≤ 1) (hlat : |lat| < 90) :
    let m : Mercator (Extended ℝ) := ofDegrees (.sphere (finite radius)) (finite lon0) (finite k0)
      (finite falseEasting) (finite falseNorthing)
    Antimeridian.isSmooth (finite lat) m.inverse m.forward (finite eps) = true ↔
      eps < |lon0| ∧ 2 * (eps * (Real.pi / 180)) * (radius * k0) ≤ 1 := by
  intro m
  have hpi := Real.pi_gt_three
  have hunit : 0 < Real.pi / 180 := by positivity
  have hwestmost : -Real.pi < lon0 * (Real.pi / 180) := by nlinarith
  have heastmost : lon0 * (Real.pi / 180) ≤ Real.pi := by nlinarith
  have hbelowRight : eps * (Real.pi / 180) < Real.pi / 2 := by nlinarith
  obtain ⟨west, east, hwest, heast, hgap⟩ :=
    Angle.exists_wrap_beside hwestmost heastmost (mul_pos heps hunit) hbelowRight
  refine (isSmooth_iff_gap falseEasting falseNorthing hwest heast (by linarith) heps (by linarith)
    hlat).trans ?_
  have hfar : eps * (Real.pi / 180) < |lon0 * (Real.pi / 180)| ↔ eps < |lon0| := by
    rw [abs_mul, abs_of_pos hunit, mul_lt_mul_iff_left₀ hunit]
  rw [hgap]
  split_ifs with hbeside
  · have hlength : (radius * k0 * -(2 * (eps * (Real.pi / 180)))) ^ 2 =
        (2 * (eps * (Real.pi / 180)) * (radius * k0)) ^ 2 := by ring
    rw [hlength, sq_le_one_iff₀ (by positivity), and_iff_right (hfar.1 hbeside)]
  · refine iff_of_false (fun hnear => ?_) (fun h => hbeside (hfar.2 h.1))
    have hwide : 1 < 2 * Real.pi - 2 * (eps * (Real.pi / 180)) := by nlinarith
    have hscaled : 1 < radius * k0 * (2 * Real.pi - 2 * (eps * (Real.pi / 180))) :=
      hwide.trans_le (le_mul_of_one_le_left (by linarith) hscale)
    rw [sq_le_one_iff₀ (by linarith)] at hnear
    linarith

/-- A map centred on the Pacific is continuous, and one centred on Greenwich is not. -/
theorem isSmooth_iff_lon0_pacific :
    let m (lon0 : ℝ) : Mercator (Extended ℝ) := ofDegrees (.sphere (finite 6378137)) (finite lon0)
      (finite 1) (finite 0) (finite 0)
    Antimeridian.isSmooth (finite (-40)) (m 150).inverse (m 150).forward
        (finite (1 / 10 ^ 9)) = true ∧
      ¬Antimeridian.isSmooth (finite (-40)) (m 0).inverse (m 0).forward
        (finite (1 / 10 ^ 9)) = true := by
  intro m
  have hpi := Real.pi_lt_four
  have hsmooth {lon0 : ℝ} (hlow : -180 < lon0) (hhigh : lon0 ≤ 180) :=
    isSmooth_iff_lon0 6378137 lon0 1 0 0 (1 / 10 ^ 9) (-40) hlow hhigh (by norm_num) (by norm_num)
      (by norm_num) (by norm_num [abs_of_neg])
  constructor
  · refine (hsmooth (by norm_num) (by norm_num)).2 ⟨by norm_num [abs_of_pos], ?_⟩
    linarith
  · intro h
    have hfar := ((hsmooth (by norm_num) (by norm_num)).1 h).1
    norm_num at hfar

end Mercator

end Graticule
