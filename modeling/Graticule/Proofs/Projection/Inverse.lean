import Graticule.Projection.Basic
import Graticule.Proofs.Projection.Cone
import Graticule.Proofs.Projection.Sphere

/-!
# Projections of a sphere and their inverses

Over the reals a projection of a sphere is undone by its inverse everywhere off the poles and the
antimeridian, so the passage from one plane to another is undone by the passage back.  The one
exception is a cone whose origin is no real distance from its apex, as when the parallel of the
origin is the opposite pole: it has no plane points, and nothing comes back.
-/

namespace Graticule.Projection

open Extended (finite)

/-- The projections of a sphere that have an inverse; plain degrees may lie on any ellipsoid. -/
inductive OfSphere : Projection (Extended ℝ) → Prop where
  | longLat (e : Ellipsoid (Extended ℝ)) : OfSphere (.longLat e)
  | mercator (a lon0 k0 falseEasting falseNorthing : ℝ) (hscale : a * k0 ≠ 0) :
    OfSphere (.mercator (.ofDegrees (.sphere (finite a)) (finite lon0) (finite k0)
      (finite falseEasting) (finite falseNorthing)))
  | polarStereographic (a : ℝ) (south : Bool) (latTs lon0 falseEasting falseNorthing : ℝ)
    (ha : 0 < a) (hopposite : if south then latTs < 90 else -90 < latTs)
    (hown : if south then -90 ≤ latTs else latTs ≤ 90) :
    OfSphere (.polarStereographic (.ofDegrees (.sphere (finite a)) south (finite latTs)
      (finite lon0) (finite falseEasting) (finite falseNorthing)))
  | lambertConformal (lat0 : Extended ℝ) (lon0 lat1 lat2 radius falseEasting falseNorthing : ℝ)
    (h1 : |lat1| < 90) (h2 : |lat2| < 90) (hradius : 0 < radius)
    (hn : LambertConformal.coneConstantOf (Angle.radians (finite lat1))
      (Angle.radians (finite lat2)) ≠ 0) :
    OfSphere (.lambertConformal (.ofDegrees lat0 (finite lon0) (finite lat1) (finite lat2)
      (finite radius) (finite falseEasting) (finite falseNorthing)))

/-- The origin of a cone lies at a real distance from the apex. -/
def HasOrigin : Projection (Extended ℝ) → Prop
  | .lambertConformal c => Scalar.isFinite c.rho0 = true
  | _ => True

theorem OfSphere.inverse_forward_iff {p : Projection (Extended ℝ)} (hp : p.OfSphere) {lon lat : ℝ}
    (hlon : |lon| < 180) (hlat : |lat| < 90) :
    p.inverse (p.forward ⟨finite lon, finite lat⟩) = ⟨finite lon, finite lat⟩ ↔ p.HasOrigin := by
  cases hp with
  | longLat e => exact iff_of_true rfl trivial
  | mercator a lon0 k0 falseEasting falseNorthing hscale =>
    exact iff_of_true
      (Mercator.inverse_forward_sphere lon0 falseEasting falseNorthing hscale hlon hlat) trivial
  | polarStereographic a south latTs lon0 falseEasting falseNorthing ha hopposite hown =>
    obtain ⟨hlow, hhigh⟩ := PolarStereographic.side_mul_within hopposite hown
    exact iff_of_true (PolarStereographic.inverse_forward_sphere south lon0 falseEasting
      falseNorthing ha hlow hhigh hlon hlat) trivial
  | lambertConformal lat0 lon0 lat1 lat2 radius falseEasting falseNorthing h1 h2 hradius hn =>
    exact LambertConformal.inverse_forward_sphere_iff h1 h2 hradius hn hlon hlat

/-- What the inverse of each of two projections undoes, the passage back undoes. -/
theorem inverse_apply_apply {p q : Projection (Extended ℝ)} {place : Position (Extended ℝ)}
    (hp : p.inverse (p.forward place) = place) (hq : q.inverse (q.forward place) = place) :
    (⟨p, q⟩ : Transformer _).inverse.apply ((⟨p, q⟩ : Transformer _).apply (p.forward place)) =
      p.forward place := by
  unfold Transformer.apply Transformer.inverse
  rw [hp, hq]

/-- Over the reals the inverse undoes every projection of a sphere exactly when the origin, for a
cone, lies at a real distance from the apex; then the passage back undoes every passage between two
planes; and a cone whose parallel of the origin lies between the poles has such an origin. -/
theorem inverse_forward_on_sphere :
    (∀ p : Projection (Extended ℝ), p.OfSphere → ∀ lon lat : ℝ, |lon| < 180 → |lat| < 90 →
      (p.inverse (p.forward ⟨finite lon, finite lat⟩) = ⟨finite lon, finite lat⟩ ↔
        p.HasOrigin)) ∧
    (∀ p q : Projection (Extended ℝ), p.OfSphere → p.HasOrigin → q.OfSphere → q.HasOrigin →
      ∀ lon lat : ℝ, |lon| < 180 → |lat| < 90 →
        let t : Transformer (Extended ℝ) := ⟨p, q⟩
        let point := p.forward ⟨finite lon, finite lat⟩
        t.inverse.apply (t.apply point) = point) ∧
    ∀ lat0 lon0 lat1 lat2 radius falseEasting falseNorthing : ℝ, |lat0| < 90 → |lat1| < 90 →
      |lat2| < 90 → 0 < radius →
      LambertConformal.coneConstantOf (Angle.radians (finite lat1)) (Angle.radians (finite lat2))
        ≠ 0 →
      HasOrigin (.lambertConformal (.ofDegrees (finite lat0) (finite lon0) (finite lat1)
        (finite lat2) (finite radius) (finite falseEasting) (finite falseNorthing))) := by
  refine ⟨fun p hp lon lat hlon hlat => hp.inverse_forward_iff hlon hlat, ?_, ?_⟩
  · intro p q hp hp0 hq hq0 lon lat hlon hlat
    exact inverse_apply_apply ((hp.inverse_forward_iff hlon hlat).2 hp0)
      ((hq.inverse_forward_iff hlon hlat).2 hq0)
  · intro lat0 lon0 lat1 lat2 radius falseEasting falseNorthing h0 h1 h2 hradius hn
    exact LambertConformal.isFinite_rho0_ofDegrees lon0 falseEasting falseNorthing h0 h1 h2 hradius
      hn

/-! ## A cone tangent at 30° -/

theorem coneConstantOf_thirty :
    LambertConformal.coneConstantOf (Angle.radians (finite (30 : ℝ)))
      (Angle.radians (finite 30)) = finite (1 / 2) := by
  have hnear : |(30 : ℝ) * (Real.pi / 180) - 30 * (Real.pi / 180)| < 1e-10 := by
    rw [sub_self, abs_zero]
    positivity
  have hsixth : 30 * (Real.pi / 180) = Real.pi / 6 := by ring
  unfold LambertConformal.coneConstantOf
  rw [Angle.radians_finite, if_pos ((LambertConformal.isNear_iff _ _).2 hnear),
    Extended.sin_finite, hsixth, Real.sin_pi_div_six]

theorem coneConstantOf_thirty_ne_zero :
    LambertConformal.coneConstantOf (Angle.radians (finite (30 : ℝ)))
      (Angle.radians (finite 30)) ≠ 0 := by
  rw [coneConstantOf_thirty, Extended.zero_eq]
  intro h
  have := Extended.finite_injective h
  norm_num at this

theorem abs_thirty_lt : |(30 : ℝ)| < 90 := by norm_num [abs_of_pos]

noncomputable def coneAtForty : Projection (Extended ℝ) :=
  .lambertConformal (.ofDegrees (finite 40) (finite 170) (finite 30) (finite 30) (finite 6371000)
    (finite 500000) (finite 0))

theorem ofSphere_coneAtForty : coneAtForty.OfSphere :=
  .lambertConformal _ _ _ _ _ _ _ abs_thirty_lt abs_thirty_lt (by norm_num)
    coneConstantOf_thirty_ne_zero

noncomputable def planeAtSouthPole : Projection (Extended ℝ) :=
  .polarStereographic (.ofDegrees (.sphere (finite 6371000)) true (finite (-90)) (finite 0)
    (finite 0) (finite 0))

theorem ofSphere_planeAtSouthPole : planeAtSouthPole.OfSphere :=
  .polarStereographic _ _ _ _ _ _ (by norm_num) (by norm_num) (by norm_num)

/-- From the cone to the plane at the south pole and back, over a place south of the cone. -/
theorem inverse_forward_cone_plane :
    coneAtForty.HasOrigin ∧
      let t : Transformer (Extended ℝ) := ⟨coneAtForty, planeAtSouthPole⟩
      let point := coneAtForty.forward ⟨finite (-150), finite (-20)⟩
      t.inverse.apply (t.apply point) = point := by
  have horigin : coneAtForty.HasOrigin :=
    inverse_forward_on_sphere.2.2 40 170 30 30 6371000 500000 0 (by norm_num [abs_of_pos])
      abs_thirty_lt abs_thirty_lt (by norm_num) coneConstantOf_thirty_ne_zero
  refine ⟨horigin, ?_⟩
  exact inverse_forward_on_sphere.2.1 coneAtForty planeAtSouthPole ofSphere_coneAtForty horigin
    ofSphere_planeAtSouthPole trivial (-150) (-20) (by norm_num [abs_of_pos])
    (by norm_num [abs_of_pos])

/-- At the pole opposite its apex a cone has no real distance from the apex. -/
theorem not_inverse_forward_opposite_pole :
    let p : Projection (Extended ℝ) := .lambertConformal (.ofDegrees (finite (-90)) (finite 0)
      (finite 30) (finite 30) (finite 6371000) (finite 0) (finite 0))
    p.OfSphere ∧ p.inverse (p.forward ⟨finite 0, finite 0⟩) ≠ ⟨finite 0, finite 0⟩ := by
  intro p
  have hp : p.OfSphere := .lambertConformal _ _ _ _ _ _ _ abs_thirty_lt abs_thirty_lt (by norm_num)
    coneConstantOf_thirty_ne_zero
  refine ⟨hp, fun hround => ?_⟩
  have horigin := (hp.inverse_forward_iff (by norm_num) (by norm_num)).1 hround
  have hpositive : 0 < LambertConformal.realConeConstant (30 * (Real.pi / 180))
      (30 * (Real.pi / 180)) := by
    have hsixth : 30 * (Real.pi / 180) = Real.pi / 6 := by ring
    rw [LambertConformal.realConeConstant_self, hsixth, Real.sin_pi_div_six]
    positivity
  have hradius : (0 : ℝ) < 6371000 := by norm_num
  have hlost := LambertConformal.not_isFinite_rho0_opposite_pole 0 0 0 abs_thirty_lt abs_thirty_lt
    hradius coneConstantOf_thirty_ne_zero hpositive
  exact Bool.false_ne_true (hlost.symm.trans horigin)

end Graticule.Projection
