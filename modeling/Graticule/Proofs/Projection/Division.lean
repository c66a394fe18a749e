import Graticule.Proofs.Projection.Cone
import Graticule.Proofs.Projection.Ellipsoid
import Graticule.Proofs.Projection.Numbers
import Graticule.Proofs.Projection.Wrapping
import Graticule.Proofs.Scalar.Guarded

/-!
# Divisions of a projection

The formulas of a projection over guarded scalars, which record a division by zero.  When the
numbers of a projection are real and what it divides by is not zero, then no place between the poles
and no plane point makes the formulas divide by zero, and every longitude that they wrap is a real
number.  The flattening may be any: that of a globe drawn out along its axis has no eccentricity, and
then latitudes and northings on an ellipsoid are not numbers, but they are no faults.
-/

namespace Graticule

open Extended (finite nan)
open Guarded (real value fault)

/-! ## Angles -/

namespace Angle

theorem radians_real (x : ℝ) : radians (real x) = real (x * (Real.pi / 180)) := by
  unfold radians
  rw [Guarded.pi_eq, Guarded.ofNat_eq, Guarded.real_div _ (by norm_num), Guarded.real_mul]

theorem isReal_radians (x : ℝ) : Guarded.IsReal (radians (real x)) := ⟨_, radians_real x⟩

theorem degrees_real (x : ℝ) : degrees (real x) = real (x * (180 / Real.pi)) := by
  unfold degrees
  rw [Guarded.pi_eq, Guarded.ofNat_eq, Guarded.real_div _ Real.pi_ne_zero, Guarded.real_mul]

theorem exists_degrees_value (x : Extended ℝ) : ∃ y, degrees (value x) = value y := by
  unfold degrees
  rw [Guarded.pi_eq, Guarded.ofNat_eq, Guarded.real_div _ Real.pi_ne_zero]
  exact ⟨_, rfl⟩

theorem right_real : (right : Guarded (Extended ℝ)) = real (Real.pi / 2) := by
  unfold right
  rw [Guarded.pi_eq, Guarded.ofNat_eq, Guarded.real_div _ two_ne_zero]

theorem halfRight_real : (halfRight : Guarded (Extended ℝ)) = real (Real.pi / 4) := by
  unfold halfRight
  rw [Guarded.pi_eq, Guarded.ofNat_eq, Guarded.real_div _ four_ne_zero]

theorem turn_real : (turn : Guarded (Extended ℝ)) = real (2 * Real.pi) := by
  unfold turn
  rw [Guarded.pi_eq, Guarded.ofNat_eq, Guarded.real_mul]

/-- The only division of the loops is by a whole turn. -/
theorem keepsTurns_value : KeepsTurns (value : Extended ℝ → Guarded (Extended ℝ)) where
  turnsWithin x := by
    have hquotient : Scalar.abs (value x) / turn = value (Scalar.abs x / turn) := by
      rw [turn_real, turn_eq]
      exact Guarded.value_div_real _ Real.two_pi_pos.ne'
    unfold turnsWithin
    rw [hquotient]
    rfl
  pi_lt x := Guarded.value_lt _ x
  lt_neg_pi x := Guarded.value_lt x _
  sub_turn _ := rfl
  add_turn _ := rfl

theorem wrap_value (x : Extended ℝ) : wrap (value x) = value (wrap x) := keepsTurns_value.wrap x

theorem wrap_fault : wrap (fault : Guarded (Extended ℝ)) = fault := rfl

theorem exists_wrap_real (x : ℝ) : ∃ y, wrap (real x) = real y := by
  obtain ⟨m, hm, -⟩ := exists_wrap_eq x
  exact ⟨_, (wrap_value (finite x)).trans (congrArg value hm)⟩

end Angle

/-! ## Latitudes -/

namespace Latitude

/-- The eccentricity of an ellipsoid over the reals: that of a globe drawn out along its axis is not
a number. -/
def IsEccentricity (e : Guarded (Extended ℝ)) : Prop :=
  e = value nan ∨ ∃ r, 0 ≤ r ∧ r ≤ 1 ∧ e = real r

theorem eccentricity_of_nonneg {E : Ellipsoid (Guarded (Extended ℝ))} {f : ℝ} (hE : E.f = real f)
    (hf : 0 ≤ f * (2 - f)) : E.eccentricity = real √(f * (2 - f)) := by
  unfold Ellipsoid.eccentricity
  rw [hE, Guarded.ofNat_eq, Guarded.real_sub, Guarded.real_mul, Guarded.sqrt_real hf]

theorem eccentricity_of_neg {E : Ellipsoid (Guarded (Extended ℝ))} {f : ℝ} (hE : E.f = real f)
    (hf : f * (2 - f) < 0) : E.eccentricity = value nan := by
  unfold Ellipsoid.eccentricity
  rw [hE, Guarded.ofNat_eq, Guarded.real_sub, Guarded.real_mul]
  exact congrArg value (if_pos hf)

theorem sqrt_le_one (f : ℝ) : √(f * (2 - f)) ≤ 1 := by
  rw [Real.sqrt_le_one]
  nlinarith [sq_nonneg (f - 1)]

theorem isEccentricity {E : Ellipsoid (Guarded (Extended ℝ))} {f : ℝ} (hE : E.f = real f) :
    IsEccentricity E.eccentricity := by
  rcases lt_or_ge (f * (2 - f)) 0 with hf | hf
  · exact .inl (eccentricity_of_neg hE hf)
  · exact .inr ⟨_, Real.sqrt_nonneg _, sqrt_le_one f, eccentricity_of_nonneg hE hf⟩

section

variable {e phi : ℝ}

theorem abs_mul_sin_lt (he0 : 0 ≤ e) (he1 : e ≤ 1) (hphi : Real.cos phi ≠ 0) :
    |e * Real.sin phi| < 1 := by
  have hsin : |Real.sin phi| < 1 := by
    have hunit := Real.sin_sq_add_cos_sq phi
    have hcos := sq_pos_of_ne_zero hphi
    rw [← sq_lt_one_iff_abs_lt_one]
    linarith
  rw [abs_mul, abs_of_nonneg he0]
  exact (mul_le_of_le_one_left (abs_nonneg _) he1).trans_lt hsin

theorem half_mul_real (e : ℝ) : (0.5 * real e : Guarded (Extended ℝ)) = real (e / 2) := by
  rw [Guarded.decimal_eq, Guarded.real_mul]
  congr 1
  push_cast
  ring

theorem sineRatio_real (h : -1 < e * Real.sin phi) :
    sineRatio (real phi) (real e) = real (realSineRatio phi e) := by
  simp only [sineRatio]
  rw [Guarded.sin_real, Guarded.real_mul, Guarded.one_eq, Guarded.real_sub, Guarded.real_add,
    Guarded.real_div _ (by linarith)]
  rfl

theorem realSineRatio_nonneg (he0 : 0 ≤ e) (he1 : e ≤ 1) (h : -1 < e * Real.sin phi) :
    0 ≤ realSineRatio phi e := by
  have hsin := mul_le_of_le_one_right he0 (Real.sin_le_one phi)
  unfold realSineRatio
  apply div_nonneg <;> linarith

theorem pow_sineRatio_real (he0 : 0 ≤ e) (he1 : e ≤ 1) (h : -1 < e * Real.sin phi) :
    Elementary.pow (sineRatio (real phi) (real e)) (0.5 * real e) =
      real (realSineRatio phi e ^ (e / 2)) := by
  rw [half_mul_real, sineRatio_real h,
    Guarded.pow_real_of_nonneg (realSineRatio_nonneg he0 he1 h) (by linarith)]

theorem refine_real (he0 : 0 ≤ e) (he1 : e ≤ 1) (t : ℝ) (h : -1 < Real.sin phi) :
    refine (real t) (real e) (real phi) = real (realRefine t e phi) := by
  have hproduct : -1 < e * Real.sin phi := by
    have hlow := mul_le_mul_of_nonneg_left h.le he0
    rcases he1.lt_or_eq with hlt | rfl
    · linarith
    · linarith
  unfold refine
  rw [pow_sineRatio_real he0 he1 hproduct, Guarded.real_mul, Angle.right_real, Guarded.atan_real,
    Guarded.ofNat_eq, Guarded.real_mul, Guarded.real_sub]
  rfl

/-- No step leads to the south pole. -/
theorem neg_one_lt_sin_sub (t : ℝ) : -1 < Real.sin (Real.pi / 2 - 2 * Real.arctan t) := by
  have hcos := Real.cos_sq_arctan t
  have hpos : 0 < 1 / (1 + t ^ 2) := by positivity
  rw [Real.sin_pi_div_two_sub, Real.cos_two_mul]
  linarith

theorem exists_approach_real (he0 : 0 ≤ e) (he1 : e ≤ 1) (t : ℝ) (n : ℕ)
    (h : -1 < Real.sin phi) : ∃ psi, approach (real t) (real e) n (real phi) = real psi := by
  induction n generalizing phi with
  | zero => exact ⟨phi, rfl⟩
  | succ n ih =>
    simp only [approach, refine_real he0 he1 t h, Guarded.real_sub, Guarded.real_add,
      add_sub_cancel]
    split_ifs
    · exact ⟨_, rfl⟩
    · exact ih (neg_one_lt_sin_sub _)

theorem exists_ofIsometric_real (he0 : 0 ≤ e) (he1 : e ≤ 1) (t : ℝ) :
    ∃ psi, ofIsometric (real t) (real e) = real psi := by
  unfold ofIsometric
  rw [Guarded.atan_real, Angle.right_real, Guarded.ofNat_eq, Guarded.real_mul, Guarded.real_sub]
  exact exists_approach_real he0 he1 t mostSteps (neg_one_lt_sin_sub t)

/-- Twice the half angle is the latitude seen from the pole. -/
theorem cos_eq_two_mul (phi : ℝ) : Real.cos phi =
    2 * Real.sin (Real.pi / 4 - phi / 2) * Real.cos (Real.pi / 4 - phi / 2) := by
  rw [← Real.sin_two_mul, ← Real.sin_pi_div_two_sub]
  congr 1
  ring

theorem tan_halfAngle_real (hphi : Real.cos (Real.pi / 4 - phi / 2) ≠ 0) :
    Elementary.tan (Angle.halfRight - 0.5 * real phi) =
      real (Real.tan (Real.pi / 4 - phi / 2)) := by
  rw [half_mul_real, Angle.halfRight_real, Guarded.real_sub, Guarded.tan_real hphi]

theorem realIsometric_ne_zero (he0 : 0 ≤ e) (he1 : e ≤ 1) (hphi : Real.cos phi ≠ 0) :
    isometric (real phi) (real e) = real (realIsometric phi e) ∧ realIsometric phi e ≠ 0 := by
  have h := abs_lt.1 (abs_mul_sin_lt he0 he1 hphi)
  have hratio : 0 < realSineRatio phi e := by
    unfold realSineRatio
    apply div_pos <;> linarith
  have hpow := Real.rpow_pos_of_pos hratio (e / 2)
  obtain ⟨hsin, hcos⟩ : Real.sin (Real.pi / 4 - phi / 2) ≠ 0 ∧
      Real.cos (Real.pi / 4 - phi / 2) ≠ 0 := by
    rw [cos_eq_two_mul] at hphi
    exact ⟨right_ne_zero_of_mul (left_ne_zero_of_mul hphi), right_ne_zero_of_mul hphi⟩
  constructor
  · unfold isometric
    rw [tan_halfAngle_real hcos, pow_sineRatio_real he0 he1 h.1, Guarded.real_div _ hpow.ne']
    rfl
  · rw [realIsometric_eq, Real.tan_eq_sin_div_cos]
    exact div_ne_zero (div_ne_zero hsin hcos) hpow.ne'

/-- At a pole the isometric variable is zero or infinite, so dividing by it leaves nothing. -/
theorem eq_zero_of_div_isometric_pole (hphi : Real.cos phi = 0) {e x : Guarded (Extended ℝ)} {r : ℝ}
    (h : x / isometric (real phi) e = real r) : r = 0 := by
  unfold isometric at h
  by_cases hcos : Real.cos (Real.pi / 4 - phi / 2) = 0
  · obtain ⟨s, hs⟩ : ∃ s, Elementary.tan (Angle.halfRight - 0.5 * real phi) =
        value (.infinite s) := by
      rw [half_mul_real, Angle.halfRight_real, Guarded.real_sub]
      exact ⟨_, Guarded.tan_of_cos_eq_zero hcos⟩
    rw [hs] at h
    exact Guarded.eq_zero_of_div_infinite_div h
  · have hsin : Real.sin (Real.pi / 4 - phi / 2) = 0 := by
      rw [cos_eq_two_mul] at hphi
      have := (mul_eq_zero.1 hphi).resolve_right hcos
      linarith
    rw [tan_halfAngle_real hcos, Real.tan_eq_sin_div_cos, hsin, zero_div] at h
    exact absurd h (Guarded.div_zero_div_ne_real _ _ r)

theorem exists_parallelRadius_real (he0 : 0 ≤ e) (he1 : e ≤ 1) (hphi : Real.cos phi ≠ 0) :
    ∃ r, r ≠ 0 ∧ parallelRadius (real phi) (real e) = real r := by
  have h := abs_lt.1 (abs_mul_sin_lt he0 he1 hphi)
  have hpos : 0 < 1 - e * e * Real.sin phi * Real.sin phi := by nlinarith
  have hroot := Real.sqrt_pos.2 hpos
  refine ⟨_, div_ne_zero hphi hroot.ne', ?_⟩
  simp only [parallelRadius]
  rw [Guarded.sin_real, Guarded.cos_real, Guarded.real_mul, Guarded.real_mul, Guarded.real_mul,
    Guarded.one_eq, Guarded.real_sub, Guarded.sqrt_real hpos.le, Guarded.real_div _ hroot.ne']

end

/-! ### Without an eccentricity -/

theorem sineRatio_nan (phi : Extended ℝ) : sineRatio (value phi) (value nan) = value nan := by
  have hproduct : (value nan * Elementary.sin (value phi) : Guarded (Extended ℝ)) = value nan := by
    cases phi <;> rfl
  simp only [sineRatio]
  rw [hproduct]
  rfl

theorem isometric_nan (phi : Extended ℝ) : isometric (value phi) (value nan) = value nan := by
  have hpow : Elementary.pow (sineRatio (value phi) (value nan)) (0.5 * value nan) = value nan := by
    rw [sineRatio_nan]
    rfl
  unfold isometric
  rw [Angle.halfRight_real, hpow]
  exact Guarded.value_div_nan _

theorem parallelRadius_nan (phi : Extended ℝ) :
    parallelRadius (value phi) (value nan) = value nan := by
  exact Guarded.value_div_nan _

theorem isometric_fault (e : Guarded (Extended ℝ)) : isometric fault e = fault := by
  unfold isometric
  rw [Angle.halfRight_real]
  rfl

theorem exists_ofIsometric_nan (t : Extended ℝ) :
    ∃ psi, ofIsometric (value t) (value nan) = value psi := by
  have hrefine (phi : Extended ℝ) :
      ∃ psi, refine (value t) (value nan) (value phi) = value psi := by
    unfold refine
    rw [sineRatio_nan, Angle.right_real]
    exact ⟨_, rfl⟩
  have hsteps (n : ℕ) (phi : Extended ℝ) :
      ∃ psi, approach (value t) (value nan) n (value phi) = value psi := by
    induction n generalizing phi with
    | zero => exact ⟨phi, rfl⟩
    | succ n ih =>
      obtain ⟨psi, hpsi⟩ := hrefine phi
      simp only [approach, hpsi]
      split_ifs
      · exact ⟨_, rfl⟩
      · exact ih _
  unfold ofIsometric
  rw [Angle.right_real]
  exact hsteps mostSteps _

/-! ### With or without one -/

/-- A real number, or anything where there is no eccentricity. -/
def Allows (e : Guarded (Extended ℝ)) (y : Extended ℝ) : Prop :=
  e = value nan ∨ ∃ r, y = finite r

theorem exists_ofIsometric_value {e : Guarded (Extended ℝ)} (he : IsEccentricity e)
    {t : Extended ℝ} (ht : Allows e t) : ∃ psi, ofIsometric (value t) e = value psi := by
  rcases he with rfl | ⟨r, he0, he1, rfl⟩
  · exact exists_ofIsometric_nan t
  · obtain ⟨t, rfl⟩ := ht.resolve_left nofun
    obtain ⟨psi, hpsi⟩ := exists_ofIsometric_real he0 he1 t
    exact ⟨finite psi, hpsi⟩

theorem exists_log_isometric {e : Guarded (Extended ℝ)} (he : IsEccentricity e) {phi : ℝ}
    (hphi : |phi| < Real.pi / 2) :
    ∃ u, Allows e u ∧ Elementary.log (isometric (real phi) e) = value u := by
  rcases he with rfl | ⟨r, he0, he1, rfl⟩
  · exact ⟨nan, .inl rfl, congrArg Elementary.log (isometric_nan (finite phi))⟩
  · have hcos := (Real.cos_pos_of_mem_Ioo (abs_lt.1 hphi)).ne'
    obtain ⟨hreal, hne⟩ := realIsometric_ne_zero he0 he1 hcos
    have hproduct := (abs_lt.1 (abs_mul_sin_lt he0 he1 hcos)).1
    have hpos : 0 < realIsometric phi r := by
      refine lt_of_le_of_ne (div_nonneg (tan_halfRight_sub_pos hphi).le ?_) hne.symm
      exact Real.rpow_nonneg (realSineRatio_nonneg he0 he1 hproduct) _
    rw [hreal, Guarded.log_real hpos]
    exact ⟨_, .inr ⟨_, rfl⟩, rfl⟩

end Latitude

/-! ## Projections without a division by zero -/

namespace Projection

/-- What the formulas of a projection divide by. -/
def divisors {α : Type} [Elementary α] : Projection α → List α
  | longLat _ => []
  | mercator m => [m.equatorScale]
  | polarStereographic s => [s.radiusScale]
  | lambertConformal c => [c.n, c.f]

/-- The way from a plane point has no fault, and the longitude that it wraps is real. -/
structure InvertsAt (p : Projection (Guarded (Extended ℝ))) (q : Position (Guarded (Extended ℝ))) :
    Prop where
  inverse : ∃ lon lat, p.inverse q = ⟨real lon, value lat⟩
  wrapped : ∀ l ∈ p.inverseLongitudes q, Guarded.IsReal l

/-- The formulas have no fault between the poles nor anywhere on the plane, and the longitudes that
they wrap are real. -/
structure IsUsable (p : Projection (Guarded (Extended ℝ))) : Prop where
  forward : ∀ lon lat : ℝ, |lat| < 90 →
    ∃ x y, p.forward ⟨real lon, real lat⟩ = ⟨real x, value y⟩
  wrapped : ∀ lon lat : ℝ, ∀ l ∈ p.forwardLongitudes ⟨real lon, real lat⟩, Guarded.IsReal l
  inverse : ∀ x y : ℝ, p.InvertsAt ⟨real x, real y⟩
  inverse_forward : ∀ lon lat : ℝ, |lat| < 90 → p.InvertsAt (p.forward ⟨real lon, real lat⟩)

theorem isUsable_of_real {p : Projection (Guarded (Extended ℝ))}
    (hforward : ∀ lon lat : ℝ, |lat| < 90 →
      ∃ x y, p.forward ⟨real lon, real lat⟩ = ⟨real x, real y⟩)
    (hwrapped : ∀ lon lat : ℝ, ∀ l ∈ p.forwardLongitudes ⟨real lon, real lat⟩, Guarded.IsReal l)
    (hinverse : ∀ x y : ℝ, p.InvertsAt ⟨real x, real y⟩) : IsUsable p := by
  refine ⟨fun lon lat hlat => ?_, hwrapped, hinverse, fun lon lat hlat => ?_⟩
  · obtain ⟨x, y, hplane⟩ := hforward lon lat hlat
    exact ⟨x, finite y, hplane⟩
  · obtain ⟨x, y, hplane⟩ := hforward lon lat hlat
    rw [hplane]
    exact hinverse x y

theorem isUsable_longLat (e : Ellipsoid (Guarded (Extended ℝ))) : IsUsable (longLat e) :=
  isUsable_of_real (fun lon lat _ => ⟨lon, lat, rfl⟩) (fun _ _ => nofun)
    fun x y => ⟨⟨x, finite y, rfl⟩, nofun⟩

end Projection

/-! ### Mercator -/

namespace Mercator

variable {m : Mercator (Guarded (Extended ℝ))} {f scale lam0 falseEasting falseNorthing : ℝ}

structure IsScaled (m : Mercator (Guarded (Extended ℝ)))
    (f scale lam0 falseEasting falseNorthing : ℝ) : Prop where
  flattening : m.ellipsoid.f = real f
  equatorScale : m.equatorScale = real scale
  ne_zero : scale ≠ 0
  lon0 : m.lon0 = real lam0
  falseEasting : m.falseEasting = real falseEasting
  falseNorthing : m.falseNorthing = real falseNorthing

theorem centredLongitude_real (h : IsScaled m f scale lam0 falseEasting falseNorthing) (lon : ℝ)
    (lat : Guarded (Extended ℝ)) :
    m.centredLongitude ⟨real lon, lat⟩ = real (lon * (Real.pi / 180) - lam0) := by
  unfold centredLongitude
  rw [h.lon0, Angle.radians_real, Guarded.real_sub]

theorem planeLongitude_real (h : IsScaled m f scale lam0 falseEasting falseNorthing) (x : ℝ)
    (y : Guarded (Extended ℝ)) :
    m.planeLongitude ⟨real x, y⟩ = real (lam0 + (x - falseEasting) / scale) := by
  unfold planeLongitude
  rw [h.lon0, h.equatorScale, h.falseEasting, Guarded.real_sub, Guarded.real_div _ h.ne_zero,
    Guarded.real_add]

theorem exists_forward_value (h : IsScaled m f scale lam0 falseEasting falseNorthing)
    (lon : ℝ) {lat : ℝ} (hlat : |lat| < 90) :
    ∃ x y, Latitude.Allows m.ellipsoid.eccentricity y ∧
      m.forward ⟨real lon, real lat⟩ = ⟨real x, value y⟩ := by
  have he := Latitude.isEccentricity h.flattening
  obtain ⟨dlon, hdlon⟩ := Angle.exists_wrap_real (lon * (Real.pi / 180) - lam0)
  obtain ⟨u, hu, hlog⟩ := Latitude.exists_log_isometric he (Angle.abs_latitude_lt hlat)
  refine ⟨falseEasting + scale * dlon, finite falseNorthing - finite scale * u, ?_, ?_⟩
  · rcases hu with hnan | ⟨r, rfl⟩
    · exact .inl hnan
    · exact .inr ⟨_, Extended.finite_sub _ _⟩
  · simp only [forward]
    rw [centredLongitude_real h, h.equatorScale, h.falseEasting, h.falseNorthing,
      Angle.radians_real, hdlon, hlog, Guarded.real_mul, Guarded.real_add]
    rfl

theorem invertsAt (h : IsScaled m f scale lam0 falseEasting falseNorthing)
    (x : ℝ) {y : Extended ℝ} (hy : Latitude.Allows m.ellipsoid.eccentricity y) :
    Projection.InvertsAt (.mercator m) ⟨real x, value y⟩ := by
  refine ⟨?_, List.forall_mem_singleton.2 ⟨_, planeLongitude_real h x _⟩⟩
  have he := Latitude.isEccentricity h.flattening
  obtain ⟨lam, hlam⟩ := Angle.exists_wrap_real (lam0 + (x - falseEasting) / scale)
  set t := Elementary.exp (-(y - finite falseNorthing) / finite scale) with ht
  have hexp : Elementary.exp (-(value y - real falseNorthing) / real scale) = value t :=
    congrArg Elementary.exp (Guarded.value_div_real _ h.ne_zero)
  have hallows : Latitude.Allows m.ellipsoid.eccentricity t := by
    rcases hy with hnan | ⟨r, rfl⟩
    · exact .inl hnan
    · rw [Extended.finite_sub, Extended.finite_neg, Extended.finite_div _ h.ne_zero] at ht
      exact .inr ⟨_, ht⟩
  obtain ⟨psi, hpsi⟩ := Latitude.exists_ofIsometric_value he hallows
  obtain ⟨lat, hlat⟩ := Angle.exists_degrees_value psi
  simp only [Projection.inverse, inverse]
  rw [planeLongitude_real h, h.equatorScale, h.falseNorthing, hexp, hpsi, hlat, hlam,
    Angle.degrees_real]
  exact ⟨_, lat, rfl⟩

theorem isUsable_of_isScaled (h : IsScaled m f scale lam0 falseEasting falseNorthing) :
    Projection.IsUsable (.mercator m) := by
  constructor
  case forward =>
    intro lon lat hlat
    obtain ⟨x, y, -, hplane⟩ := exists_forward_value h lon hlat
    exact ⟨x, y, hplane⟩
  case wrapped =>
    intro lon lat
    exact List.forall_mem_singleton.2 ⟨_, centredLongitude_real h lon _⟩
  case inverse =>
    intro x y
    exact invertsAt h x (.inr ⟨y, rfl⟩)
  case inverse_forward =>
    intro lon lat hlat
    obtain ⟨x, y, hy, hplane⟩ := exists_forward_value h lon hlat
    change Projection.InvertsAt (.mercator m) (m.forward _)
    rw [hplane]
    exact invertsAt h x hy

end Mercator

/-! ### Polar stereographic -/

namespace PolarStereographic

variable {s : PolarStereographic (Guarded (Extended ℝ))}
variable {e r lam0 falseEasting falseNorthing : ℝ}

structure IsScaled (s : PolarStereographic (Guarded (Extended ℝ)))
    (e r lam0 falseEasting falseNorthing : ℝ) : Prop where
  eccentricity : s.ellipsoid.eccentricity = real e
  nonneg : 0 ≤ e
  le_one : e ≤ 1
  radiusScale : s.radiusScale = real r
  ne_zero : r ≠ 0
  lon0 : s.lon0 = real lam0
  falseEasting : s.falseEasting = real falseEasting
  falseNorthing : s.falseNorthing = real falseNorthing

theorem facing_real (s : PolarStereographic (Guarded (Extended ℝ))) (x : ℝ) :
    s.facing (real x) = real (side s.south * x) := by
  unfold facing side
  cases s.south
  · simp
  · simp [Guarded.real_neg]

theorem centredLongitude_real (h : IsScaled s e r lam0 falseEasting falseNorthing) (lon : ℝ)
    (lat : Guarded (Extended ℝ)) :
    s.centredLongitude ⟨real lon, lat⟩ = real (lon * (Real.pi / 180) - lam0) := by
  unfold centredLongitude
  rw [h.lon0, Angle.radians_real, Guarded.real_sub]

theorem exists_fromPole_real (h : IsScaled s e r lam0 falseEasting falseNorthing) (x y : ℝ) :
    ∃ dx dy, s.fromPole ⟨real x, real y⟩ = ⟨real dx, real dy⟩ := by
  unfold fromPole
  rw [h.falseEasting, h.falseNorthing, Guarded.real_sub, Guarded.real_sub, facing_real,
    facing_real]
  exact ⟨_, _, rfl⟩

theorem exists_distance_real (h : IsScaled s e r lam0 falseEasting falseNorthing) (x y : ℝ) :
    ∃ rho, s.distance ⟨real x, real y⟩ = real rho := by
  obtain ⟨dx, dy, hd⟩ := exists_fromPole_real h x y
  unfold distance
  rw [hd]
  exact ⟨_, rfl⟩

theorem exists_planeLongitude_real (h : IsScaled s e r lam0 falseEasting falseNorthing)
    (x y : ℝ) : ∃ l, s.planeLongitude ⟨real x, real y⟩ = real l := by
  obtain ⟨dx, dy, hd⟩ := exists_fromPole_real h x y
  obtain ⟨rho, hrho⟩ := exists_distance_real h x y
  obtain ⟨theta, htheta⟩ : ∃ theta, (if real rho == 0 then 0
      else Elementary.atan2 (real dx) (-real dy) : Guarded (Extended ℝ)) = real theta := by
    split_ifs
    · exact ⟨0, Guarded.zero_eq⟩
    · exact ⟨_, rfl⟩
  simp only [planeLongitude]
  rw [hd, hrho, htheta, facing_real, h.lon0, Guarded.real_add]
  exact ⟨_, rfl⟩

theorem exists_forward_real (h : IsScaled s e r lam0 falseEasting falseNorthing)
    (lon : ℝ) {lat : ℝ} (hlat : |lat| < 90) :
    ∃ x y, s.forward ⟨real lon, real lat⟩ = ⟨real x, real y⟩ := by
  have hphi := Angle.abs_latitude_lt hlat
  rw [← abs_side_mul s.south] at hphi
  have hcos := (Real.cos_pos_of_mem_Ioo (abs_lt.1 hphi)).ne'
  obtain ⟨dlon, hdlon⟩ := Angle.exists_wrap_real (lon * (Real.pi / 180) - lam0)
  simp only [forward]
  rw [centredLongitude_real h, h.radiusScale, h.falseEasting, h.falseNorthing, h.eccentricity,
    Angle.radians_real, hdlon, facing_real, facing_real,
    (Latitude.realIsometric_ne_zero h.nonneg h.le_one hcos).1, Guarded.real_mul, Guarded.sin_real,
    Guarded.cos_real, Guarded.real_neg, Guarded.real_mul, Guarded.real_mul, facing_real,
    facing_real, Guarded.real_add, Guarded.real_add]
  exact ⟨_, _, rfl⟩

theorem invertsAt (h : IsScaled s e r lam0 falseEasting falseNorthing) (x y : ℝ) :
    Projection.InvertsAt (.polarStereographic s) ⟨real x, real y⟩ := by
  obtain ⟨l, hl⟩ := exists_planeLongitude_real h x y
  obtain ⟨rho, hrho⟩ := exists_distance_real h x y
  obtain ⟨psi, hpsi⟩ := Latitude.exists_ofIsometric_real h.nonneg h.le_one (rho / r)
  obtain ⟨lam, hlam⟩ := Angle.exists_wrap_real l
  refine ⟨?_, List.forall_mem_singleton.2 ⟨l, hl⟩⟩
  simp only [Projection.inverse, inverse]
  rw [hl, hlam, hrho, h.radiusScale, h.eccentricity, Guarded.real_div _ h.ne_zero, hpsi,
    facing_real, Angle.degrees_real, Angle.degrees_real]
  exact ⟨_, _, rfl⟩

theorem isUsable_of_isScaled (h : IsScaled s e r lam0 falseEasting falseNorthing) :
    Projection.IsUsable (.polarStereographic s) :=
  Projection.isUsable_of_real (fun lon _ => exists_forward_real h lon)
    (fun lon _ => List.forall_mem_singleton.2 ⟨_, centredLongitude_real h lon _⟩) (invertsAt h)

end PolarStereographic

/-! ### Lambert conformal conic -/

namespace LambertConformal

variable {c : LambertConformal (Guarded (Extended ℝ))}
variable {n lam0 scale rho0 falseEasting falseNorthing : ℝ}

structure IsPointed (c : LambertConformal (Guarded (Extended ℝ)))
    (n lam0 scale rho0 falseEasting falseNorthing : ℝ) : Prop where
  coneConstant : c.n = real n
  ne_zero : n ≠ 0
  lon0 : c.lon0 = real lam0
  coneScale : c.radius * c.f = real scale
  rho0 : c.rho0 = real rho0
  falseEasting : c.falseEasting = real falseEasting
  falseNorthing : c.falseNorthing = real falseNorthing

theorem halfTan_of_cos_ne_zero {phi : ℝ} (h : Real.cos (Real.pi / 4 + phi / 2) ≠ 0) :
    halfTan (real phi) = real (realHalfTan phi) := by
  unfold halfTan
  rw [realHalfTan_eq, Angle.halfRight_real, Guarded.ofNat_eq, Guarded.real_div _ two_ne_zero,
    Guarded.real_add, Guarded.tan_real h]

theorem halfTan_real {phi : ℝ} (hphi : |phi| < Real.pi / 2) :
    halfTan (real phi) = real (realHalfTan phi) :=
  halfTan_of_cos_ne_zero (cos_halfRight_add_pos hphi).ne'

theorem centredLongitude_real (h : IsPointed c n lam0 scale rho0 falseEasting falseNorthing)
    (lon : ℝ) (lat : Guarded (Extended ℝ)) :
    c.centredLongitude ⟨real lon, lat⟩ = real (lon * (Real.pi / 180) - lam0) := by
  unfold centredLongitude
  rw [h.lon0, Angle.radians_real, Guarded.real_sub]

theorem exists_forward_real (h : IsPointed c n lam0 scale rho0 falseEasting falseNorthing)
    (lon : ℝ) {lat : ℝ} (hlat : |lat| < 90) :
    ∃ x y, c.forward ⟨real lon, real lat⟩ = ⟨real x, real y⟩ := by
  have hphi := Angle.abs_latitude_lt hlat
  have htan := realHalfTan_pos hphi
  obtain ⟨dlon, hdlon⟩ := Angle.exists_wrap_real (lon * (Real.pi / 180) - lam0)
  simp only [forward]
  rw [centredLongitude_real h, h.coneConstant, h.coneScale, h.rho0, h.falseEasting,
    h.falseNorthing, Angle.radians_real, hdlon, halfTan_real hphi,
    Guarded.pow_real htan, Guarded.real_div _ (Real.rpow_pos_of_pos htan n).ne', Guarded.real_mul,
    Guarded.sin_real, Guarded.cos_real, Guarded.real_mul, Guarded.real_mul, Guarded.real_add,
    Guarded.real_sub, Guarded.real_add]
  exact ⟨_, _, rfl⟩

theorem sign_real (n : ℝ) : Scalar.sign (real n) = real (apexSign n) := rfl

theorem exists_fromApex_real (h : IsPointed c n lam0 scale rho0 falseEasting falseNorthing)
    (x y : ℝ) : ∃ dx dy, c.fromApex ⟨real x, real y⟩ = ⟨real dx, real dy⟩ := by
  simp only [fromApex]
  rw [h.coneConstant, h.rho0, h.falseEasting, h.falseNorthing, sign_real, Guarded.real_sub,
    Guarded.real_sub, Guarded.real_sub, Guarded.real_mul, Guarded.real_mul]
  exact ⟨_, _, rfl⟩

theorem exists_planeLongitude_real
    (h : IsPointed c n lam0 scale rho0 falseEasting falseNorthing) (x y : ℝ) :
    ∃ l, c.planeLongitude ⟨real x, real y⟩ = real l := by
  obtain ⟨dx, dy, hd⟩ := exists_fromApex_real h x y
  unfold planeLongitude
  rw [hd, h.coneConstant, h.lon0, Guarded.atan2_real, Guarded.real_div _ h.ne_zero,
    Guarded.real_add]
  exact ⟨_, rfl⟩

/-- The latitude is found without a fault, whether or not the power there is a number. -/
theorem exists_latitude_value (sign scale : ℝ) {n : ℝ} (hn : n ≠ 0) (rho : ℝ) :
    ∃ phi, (if real rho == 0 then real sign * Angle.right
      else 2 * Elementary.atan (Elementary.pow (real scale / real rho) (1 / real n)) -
        Angle.right : Guarded (Extended ℝ)) = value phi := by
  rw [Angle.right_real]
  split_ifs with hzero
  · exact ⟨_, rfl⟩
  · have hrho : rho ≠ 0 := by
      rintro rfl
      apply hzero
      rw [Guarded.zero_eq, Guarded.real_beq, decide_eq_true rfl]
    rw [Guarded.one_eq, Guarded.real_div _ hrho, Guarded.real_div _ hn]
    exact ⟨_, rfl⟩

theorem invertsAt (h : IsPointed c n lam0 scale rho0 falseEasting falseNorthing) (x y : ℝ) :
    Projection.InvertsAt (.lambertConformal c) ⟨real x, real y⟩ := by
  obtain ⟨dx, dy, hd⟩ := exists_fromApex_real h x y
  obtain ⟨l, hl⟩ := exists_planeLongitude_real h x y
  obtain ⟨lam, hlam⟩ := Angle.exists_wrap_real l
  refine ⟨?_, List.forall_mem_singleton.2 ⟨l, hl⟩⟩
  simp only [Projection.inverse, inverse]
  rw [hl, hlam, hd, h.coneConstant, h.coneScale, sign_real, Guarded.hypot_real, Guarded.real_mul]
  obtain ⟨phi, hphi⟩ := exists_latitude_value _ scale h.ne_zero _
  obtain ⟨lat, hlat⟩ := Angle.exists_degrees_value phi
  rw [hphi, hlat, Angle.degrees_real]
  exact ⟨_, _, rfl⟩

theorem isUsable_of_isPointed (h : IsPointed c n lam0 scale rho0 falseEasting falseNorthing) :
    Projection.IsUsable (.lambertConformal c) :=
  Projection.isUsable_of_real (fun lon _ => exists_forward_real h lon)
    (fun lon _ => List.forall_mem_singleton.2 ⟨_, centredLongitude_real h lon _⟩) (invertsAt h)

end LambertConformal

end Graticule
