import Graticule.Proofs.Projection.Ellipsoid

/-!
# Projections of a sphere

On a sphere the latitude comes back from its isometric variable without a step.  So a Mercator and a
polar stereographic projection are undone by their inverses over the reals.  A longitude is wrapped
twice on the way, around the central meridian and back around Greenwich, and comes back because it
lies strictly within half a turn of zero.
-/

namespace Graticule

open Extended (finite)

theorem Mercator.inverse_forward_sphere {a k0 : ℝ} (lon0 falseEasting falseNorthing : ℝ)
    (hscale : a * k0 ≠ 0) {lon lat : ℝ} (hlon : |lon| < 180) (hlat : |lat| < 90) :
    let m : Mercator (Extended ℝ) := ofDegrees (.sphere (finite a)) (finite lon0) (finite k0)
      (finite falseEasting) (finite falseNorthing)
    m.inverse (m.forward ⟨finite lon, finite lat⟩) = ⟨finite lon, finite lat⟩ := by
  intro m
  have hm : Cylinder m 0 (a * k0) (lon0 * (Real.pi / 180)) falseEasting falseNorthing :=
    cylinder_ofDegrees rfl (Latitude.eccentricity_sphere a) lon0 k0 falseEasting falseNorthing
  obtain ⟨k, hround⟩ := exists_inverse_forward hm (by simp) hscale lon hlat
  rw [hround, Angle.wrap_eq k rfl (Angle.abs_longitude_lt hlon),
    Latitude.ofIsometric_realIsometric_sphere (Angle.abs_latitude_lt hlat),
    Angle.degrees_radians_finite, Angle.degrees_radians_finite]

theorem PolarStereographic.inverse_forward_sphere {a latTs : ℝ} (south : Bool)
    (lon0 falseEasting falseNorthing : ℝ) (ha : 0 < a) (hlow : -90 < side south * latTs)
    (hhigh : side south * latTs ≤ 90) {lon lat : ℝ} (hlon : |lon| < 180) (hlat : |lat| < 90) :
    let s : PolarStereographic (Extended ℝ) := ofDegrees (.sphere (finite a)) south (finite latTs)
      (finite lon0) (finite falseEasting) (finite falseNorthing)
    s.inverse (s.forward ⟨finite lon, finite lat⟩) = ⟨finite lon, finite lat⟩ := by
  intro s
  have hzero : |(0 : ℝ)| < 1 := by simp
  have hseen : |(side s.south : ℝ) * (lat * (Real.pi / 180))| < Real.pi / 2 := by
    rw [abs_side_mul]
    exact Angle.abs_latitude_lt hlat
  obtain ⟨r, hr, hs⟩ := exists_plane_ofDegrees south rfl (Latitude.eccentricity_sphere a) hzero
    lon0 falseEasting falseNorthing ha hlow hhigh
  obtain ⟨k, hround⟩ := exists_inverse_forward hs hzero hr lon hlat
  rw [hround, Angle.wrap_eq k rfl (Angle.abs_longitude_lt hlon),
    Latitude.ofIsometric_realIsometric_sphere hseen, facing_finite, ← mul_assoc, side_mul_self,
    one_mul, Angle.degrees_radians_finite, Angle.degrees_radians_finite]

end Graticule
