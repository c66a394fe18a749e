import Graticule.Proofs.Projection.Description
import Graticule.Proofs.Projection.Division

/-!
# Regular projections

A projection is sound when building it divided by no zero and its formulas divide by none.  Then
they have no fault: `Projection.Plan.isUsable_of_isSound`.  A plan with real parameters is sound on
an ellipsoid exactly when it is regular there, which its parameters say: the globe has an extent, a
cylinder or a plane has a scale, and a cone has an apex: `Projection.Plan.isSound_iff`.
-/

namespace Graticule

open Extended (finite nan)
open Guarded (real value IsReal isReal_real)

/-! ## Mercator -/

namespace Mercator

open scoped Exact in
/-- On a globe of flattening `f` the equator keeps some length. -/
def Stretch.IsRegular (f : ℝ) : Stretch ℝ → Prop
  | ofParallel latTs => 0 ≤ f * (2 - f) ∧ Real.cos (latTs * (Real.pi / 180)) ≠ 0
  | factor k => k ≠ 0

theorem exists_scaleOfParallel_iff {E : Ellipsoid (Guarded (Extended ℝ))} {f : ℝ}
    (hE : E.f = real f) (latTs : ℝ) :
    (∃ k, k ≠ 0 ∧ scaleOfParallel E (real latTs) = real k) ↔
      0 ≤ f * (2 - f) ∧ Real.cos (latTs * (Real.pi / 180)) ≠ 0 := by
  unfold scaleOfParallel
  rw [Angle.radians_real]
  constructor
  · rintro ⟨k, hk, hscale⟩
    refine ⟨?_, ?_⟩
    · by_contra hf
      rw [Latitude.eccentricity_of_neg hE (not_le.1 hf)] at hscale
      exact nomatch (Latitude.parallelRadius_nan _).symm.trans hscale
    · intro hcos
      simp only [Latitude.parallelRadius] at hscale
      rw [Guarded.cos_real, hcos] at hscale
      exact hk (Guarded.eq_zero_of_zero_div hscale)
  · rintro ⟨hf, hcos⟩
    rw [Latitude.eccentricity_of_nonneg hE hf]
    exact Latitude.exists_parallelRadius_real (Real.sqrt_nonneg _) (Latitude.sqrt_le_one f) hcos

theorem Stretch.isRegular_iff {E : Ellipsoid (Guarded (Extended ℝ))} {f : ℝ} (hE : E.f = real f)
    (stretch : Stretch ℝ) :
    stretch.IsRegular f ↔ ∃ k, k ≠ 0 ∧ (stretch.map real).scale E = real k := by
  cases stretch with
  | ofParallel latTs => exact (exists_scaleOfParallel_iff hE latTs).symm
  | factor k =>
    constructor
    · intro hk
      exact ⟨k, hk, rfl⟩
    · rintro ⟨k', hk', heq⟩
      rwa [Guarded.real_injective heq]

end Mercator

/-! ## Polar stereographic -/

namespace PolarStereographic

open scoped Exact in
/-- On a globe of equatorial radius `a` and flattening `f` some parallel keeps its length: the pole
of the plane does, and so does any other parallel that is not a point. -/
def IsRegular (a f phi : ℝ) : Prop :=
  a ≠ 0 ∧ 0 ≤ f * (2 - f) ∧ (|phi - Real.pi / 2| < 1e-12 ∨ Real.cos phi ≠ 0)

theorem isNear_iff (phi : ℝ) :
    Scalar.abs (real phi - Angle.right) < poleTolerance ↔ |phi - Real.pi / 2| < 1e-12 := by
  unfold poleTolerance
  rw [Angle.right_real, Guarded.real_sub, Guarded.abs_real, Guarded.decimal_eq, Guarded.real_lt]
  norm_num

theorem exists_poleScale {a e : ℝ} (he0 : 0 ≤ e) (he1 : e ≤ 1) (ha : a ≠ 0) :
    ∃ r, r ≠ 0 ∧ 2 * real a / Elementary.sqrt (Elementary.pow (1 + real e) (1 + real e) *
      Elementary.pow (1 - real e) (1 - real e)) = real r := by
  have hplus := Real.rpow_pos_of_pos (add_pos_of_pos_of_nonneg one_pos he0) (1 + e)
  have hminus : 0 < (1 - e) ^ (1 - e) := by
    rcases he1.lt_or_eq with hlt | rfl
    · exact Real.rpow_pos_of_pos (sub_pos.2 hlt) _
    · rw [sub_self, Real.rpow_zero]
      exact one_pos
  have hroot := Real.sqrt_pos.2 (mul_pos hplus hminus)
  refine ⟨_, div_ne_zero (mul_ne_zero two_ne_zero ha) hroot.ne', ?_⟩
  rw [Guarded.one_eq, Guarded.real_add, Guarded.real_sub,
    Guarded.pow_real_of_nonneg (by linarith) (by linarith),
    Guarded.pow_real_of_nonneg (by linarith) (by linarith), Guarded.real_mul,
    Guarded.sqrt_real (mul_pos hplus hminus).le, Guarded.ofNat_eq, Guarded.real_mul,
    Guarded.real_div _ hroot.ne']

/-- Without an eccentricity the scale is no real number. -/
theorem radiusScaleOf_ne_real {E : Ellipsoid (Guarded (Extended ℝ))} {f : ℝ} (hE : E.f = real f)
    (hf : f * (2 - f) < 0) (phi : Guarded (Extended ℝ)) (r : ℝ) :
    radiusScaleOf E phi ≠ real r := by
  simp only [radiusScaleOf]
  rw [Latitude.eccentricity_of_neg hE hf]
  split_ifs
  · exact Guarded.div_nan_ne_real _ r
  · cases phi with
    | value phi =>
      rw [Latitude.isometric_nan]
      exact Guarded.div_nan_ne_real _ r
    | fault =>
      rw [Latitude.isometric_fault, Guarded.div_fault]
      intro h
      cases h

theorem isRegular_iff (a f phi : ℝ) :
    IsRegular a f phi ↔ ∃ r, r ≠ 0 ∧ radiusScaleOf ⟨real a, real f⟩ (real phi) = real r := by
  constructor
  · rintro ⟨ha, hf, hparallel⟩
    have he0 := Real.sqrt_nonneg (f * (2 - f))
    have he1 := Latitude.sqrt_le_one f
    simp only [radiusScaleOf]
    rw [Latitude.eccentricity_of_nonneg rfl hf]
    split_ifs with hnear
    · exact exists_poleScale he0 he1 ha
    · have hcos := hparallel.resolve_left (mt (isNear_iff phi).2 hnear)
      obtain ⟨r, hr, hradius⟩ := Latitude.exists_parallelRadius_real he0 he1 hcos
      obtain ⟨ht, hne⟩ := Latitude.realIsometric_ne_zero he0 he1 hcos
      refine ⟨_, div_ne_zero (mul_ne_zero ha hr) hne, ?_⟩
      rw [hradius, ht, Guarded.real_mul, Guarded.real_div _ hne]
  · rintro ⟨r, hr, hscale⟩
    have hf : 0 ≤ f * (2 - f) := by
      by_contra hneg
      exact radiusScaleOf_ne_real rfl (not_le.1 hneg) _ r hscale
    simp only [radiusScaleOf] at hscale
    rw [Latitude.eccentricity_of_nonneg rfl hf] at hscale
    split_ifs at hscale with hnear
    · refine ⟨?_, hf, .inl ((isNear_iff phi).1 hnear)⟩
      rintro rfl
      rw [Guarded.ofNat_eq, Guarded.real_mul, mul_zero] at hscale
      exact hr (Guarded.eq_zero_of_zero_div hscale)
    · have hcos : Real.cos phi ≠ 0 := fun h =>
        hr (Latitude.eq_zero_of_div_isometric_pole h hscale)
      refine ⟨?_, hf, .inr hcos⟩
      rintro rfl
      obtain ⟨p, -, hradius⟩ := Latitude.exists_parallelRadius_real (Real.sqrt_nonneg _)
        (Latitude.sqrt_le_one f) hcos
      rw [hradius, Guarded.real_mul, zero_mul] at hscale
      exact hr (Guarded.eq_zero_of_zero_div hscale)

end PolarStereographic

/-! ## Lambert conformal conic -/

namespace LambertConformal

open scoped Exact in
/-- The parallels, in degrees, have a cone around them, and neither a cylinder nor a plane. -/
def HasCone (lat1 lat2 : ℝ) : Prop :=
  if |lat1 * (Real.pi / 180) - lat2 * (Real.pi / 180)| < 1e-10 then lat1 ≠ 0 else |lat1| ≠ |lat2|

open scoped Exact in
/-- The parallels have a cone around them, and the origin is no south pole below a northern apex. -/
def IsRegular (lat0 lat1 lat2 : ℝ) : Prop :=
  HasCone lat1 lat2 ∧
    (lat0 = -90 → realConeConstant (lat1 * (Real.pi / 180)) (lat2 * (Real.pi / 180)) < 0)

theorem realConeConstant_ne_zero_iff {phi1 phi2 : ℝ} (h1 : |phi1| < Real.pi / 2)
    (h2 : |phi2| < Real.pi / 2) :
    realConeConstant phi1 phi2 ≠ 0 ↔
      if |phi1 - phi2| < 1e-10 then phi1 ≠ 0 else |phi1| ≠ |phi2| := by
  by_cases hnear : |phi1 - phi2| < 1e-10
  · have hpi := Real.pi_pos
    obtain ⟨hlow, hhigh⟩ := abs_lt.1 h1
    unfold realConeConstant
    rw [if_pos hnear, if_pos hnear, ne_eq,
      Real.sin_eq_zero_iff_of_lt_of_lt (by linarith) (by linarith)]
  · rw [if_neg hnear]
    constructor
    · intro hne hmirror
      have hcos : Real.cos phi1 = Real.cos phi2 := by
        rw [← Real.cos_abs phi1, hmirror, Real.cos_abs]
      apply hne
      unfold realConeConstant
      rw [if_neg hnear, hcos, div_self (cos_pos_of_abs_lt h2).ne', Real.log_one, zero_div]
    · exact realConeConstant_ne_zero h1 h2 (not_lt.1 hnear)

theorem hasCone_iff {lat1 lat2 : ℝ} (h1 : |lat1| < 90) (h2 : |lat2| < 90) :
    HasCone lat1 lat2 ↔ realConeConstant (lat1 * (Real.pi / 180)) (lat2 * (Real.pi / 180)) ≠ 0 := by
  have hunit : 0 < Real.pi / 180 := by positivity
  have habs (lat : ℝ) : |lat * (Real.pi / 180)| = |lat| * (Real.pi / 180) := by
    rw [abs_mul, abs_of_pos hunit]
  rw [realConeConstant_ne_zero_iff (Angle.abs_latitude_lt h1) (Angle.abs_latitude_lt h2), habs,
    habs, ne_eq, ne_eq, mul_eq_zero_iff_right hunit.ne', mul_left_inj' hunit.ne']
  rfl

theorem isNear_real_iff (phi1 phi2 : ℝ) :
    Scalar.abs (real phi1 - real phi2) < parallelTolerance ↔ |phi1 - phi2| < 1e-10 := by
  unfold parallelTolerance
  rw [Guarded.real_sub, Guarded.abs_real, Guarded.decimal_eq, Guarded.real_lt]
  norm_num

theorem coneConstantOf_real {phi1 phi2 : ℝ} (h1 : |phi1| < Real.pi / 2)
    (h2 : |phi2| < Real.pi / 2) :
    coneConstantOf (real phi1) (real phi2) = real (realConeConstant phi1 phi2) := by
  unfold coneConstantOf realConeConstant
  by_cases hnear : |phi1 - phi2| < 1e-10
  · rw [if_pos ((isNear_real_iff phi1 phi2).2 hnear), if_pos hnear, Guarded.sin_real]
  · have htan1 := realHalfTan_pos h1
    have htan2 := realHalfTan_pos h2
    have hcos1 := cos_pos_of_abs_lt h1
    have hcos2 := cos_pos_of_abs_lt h2
    have hlog := log_ratio_realHalfTan_ne_zero h1 h2 (ne_of_not_near hnear)
    rw [if_neg (mt (isNear_real_iff phi1 phi2).1 hnear), if_neg hnear, halfTan_real h1,
      halfTan_real h2, Guarded.cos_real, Guarded.cos_real, Guarded.real_div _ hcos2.ne',
      Guarded.real_div _ htan1.ne', Guarded.log_real (div_pos hcos1 hcos2),
      Guarded.log_real (div_pos htan2 htan1), Guarded.real_div _ hlog]

/-! ### Poles -/

theorem halfTan_of_cos_eq_zero {phi : ℝ} (h : Real.cos (Real.pi / 4 + phi / 2) = 0) :
    halfTan (real phi) = value (.infinite (Extended.isNegative (Real.pi / 4 + phi / 2))) := by
  unfold halfTan
  rw [Angle.halfRight_real, Guarded.ofNat_eq, Guarded.real_div _ two_ne_zero, Guarded.real_add,
    Guarded.tan_of_cos_eq_zero h]

theorem halfTan_of_sin_eq_zero {phi : ℝ} (h : Real.sin (Real.pi / 4 + phi / 2) = 0) :
    halfTan (real phi) = real 0 := by
  have hcos : Real.cos (Real.pi / 4 + phi / 2) ≠ 0 := by
    intro hcos
    have hunit := Real.sin_sq_add_cos_sq (Real.pi / 4 + phi / 2)
    rw [h, hcos] at hunit
    norm_num at hunit
  rw [halfTan_of_cos_ne_zero hcos, realHalfTan_eq, Real.tan_eq_sin_div_cos, h, zero_div]

theorem exists_pow_infinite {n : ℝ} (hn : 0 < n) (s : Bool) :
    ∃ t, Elementary.pow (value (.infinite s)) (real n) =
      (value (.infinite t) : Guarded (Extended ℝ)) :=
  ⟨_, congrArg value ((if_neg hn.ne').trans (if_neg hn.not_gt))⟩

theorem pow_zero_of_pos {n : ℝ} (hn : 0 < n) : Elementary.pow (real 0) (real n) = real 0 := by
  rw [Guarded.pow_real_of_nonneg le_rfl hn.le, Real.zero_rpow hn.ne']

theorem pow_zero_of_neg {n : ℝ} (hn : n < 0) :
    Elementary.pow (real 0) (real n) = value (.infinite false) := by
  refine congrArg value (?_ : Extended.realPower 0 n = _)
  unfold Extended.realPower
  rw [if_neg (lt_irrefl 0), if_pos rfl, if_neg hn.ne, if_pos hn]

/-- The origin lies at a real distance from the apex, which is zero if it is the pole there, unless it
is the pole opposite; of these only the south pole is asked for. -/
theorem isReal_rho0_iff {lat0 n : ℝ} (h0 : |lat0| ≤ 90) (hnorth : lat0 = 90 → 0 ≤ n) (hn : n ≠ 0)
    (x : ℝ) :
    IsReal (real x / Elementary.pow (halfTan (real (lat0 * (Real.pi / 180)))) (real n)) ↔
      (lat0 = -90 → n < 0) := by
  rcases h0.lt_or_eq with hlt | heq
  · have htan := realHalfTan_pos (Angle.abs_latitude_lt hlt)
    have hsouth : lat0 ≠ -90 := (abs_lt.1 hlt).1.ne'
    refine iff_of_true ?_ fun h => absurd h hsouth
    rw [halfTan_real (Angle.abs_latitude_lt hlt), Guarded.pow_real htan,
      Guarded.real_div _ (Real.rpow_pos_of_pos htan n).ne']
    exact isReal_real _
  · rcases (abs_eq (by norm_num)).1 heq with rfl | rfl
    · have hhalf : Real.cos (Real.pi / 4 + 90 * (Real.pi / 180) / 2) = 0 := by
        rw [← Real.cos_pi_div_two]
        congr 1
        ring
      obtain ⟨t, ht⟩ := exists_pow_infinite ((hnorth rfl).lt_of_ne' hn)
        (Extended.isNegative (Real.pi / 4 + 90 * (Real.pi / 180) / 2))
      rw [halfTan_of_cos_eq_zero hhalf, ht]
      exact iff_of_true ⟨0, rfl⟩ (by norm_num)
    · have hhalf : Real.sin (Real.pi / 4 + -90 * (Real.pi / 180) / 2) = 0 := by
        rw [← Real.sin_zero]
        congr 1
        ring
      rw [halfTan_of_sin_eq_zero hhalf]
      rcases hn.lt_or_gt with hneg | hpos
      · rw [pow_zero_of_neg hneg]
        exact iff_of_true ⟨0, rfl⟩ fun _ => hneg
      · rw [pow_zero_of_pos hpos, Guarded.div_zero]
        exact iff_of_false nofun fun h => (h rfl).not_gt hpos

theorem exists_factor_real {phi n : ℝ} (hphi : |phi| < Real.pi / 2) (hn : n ≠ 0) :
    ∃ f, f ≠ 0 ∧ Elementary.cos (real phi) * Elementary.pow (halfTan (real phi)) (real n) / real n =
      real f := by
  have htan := realHalfTan_pos hphi
  have hpos := mul_pos (cos_pos_of_abs_lt hphi) (Real.rpow_pos_of_pos htan n)
  refine ⟨_, div_ne_zero hpos.ne' hn, ?_⟩
  rw [halfTan_real hphi, Guarded.cos_real, Guarded.pow_real htan, Guarded.real_mul,
    Guarded.real_div _ hn]

noncomputable abbrev ofReal (lat0 lon0 lat1 lat2 radius falseEasting falseNorthing : ℝ) :
    LambertConformal (Guarded (Extended ℝ)) :=
  .ofDegrees (real lat0) (real lon0) (real lat1) (real lat2) (real radius) (real falseEasting)
    (real falseNorthing)

/-- What building a cone divides: the constant, the factor and the distance of the origin. -/
theorem built_ofReal {c : LambertConformal (Guarded (Extended ℝ))}
    {lat0 lon0 lat1 lat2 radius falseEasting falseNorthing : ℝ}
    (hc : c = ofReal lat0 lon0 lat1 lat2 radius falseEasting falseNorthing) :
    c.n = coneConstantOf (real (lat1 * (Real.pi / 180))) (real (lat2 * (Real.pi / 180))) ∧
    c.f = Elementary.cos (real (lat1 * (Real.pi / 180))) *
      Elementary.pow (halfTan (real (lat1 * (Real.pi / 180)))) c.n / c.n ∧
    c.rho0 = real radius * c.f /
      Elementary.pow (halfTan (real (lat0 * (Real.pi / 180)))) c.n := by
  simp only [← Angle.radians_real]
  rw [hc]
  exact ⟨rfl, rfl, rfl⟩

end LambertConformal

/-! ## Sound projections -/

namespace Projection

/-- Building a projection of an ellipsoid divided by no zero, so that every number is real, and
neither do its formulas. -/
structure IsSound (e : Ellipsoid (Guarded (Extended ℝ))) (p : Projection (Guarded (Extended ℝ))) :
    Prop where
  ellipsoid : ∀ x ∈ e.numbers, IsReal x
  numbers : ∀ x ∈ p.numbers, IsReal x
  divisors : ∀ x ∈ p.divisors, x ≠ real 0

section

variable {α : Type} {P : α → Prop}

theorem forall_numbers_mercator {m : Mercator α} :
    (∀ x ∈ (mercator m).numbers, P x) ↔ P m.ellipsoid.a ∧ P m.ellipsoid.f ∧ P m.lon0 ∧ P m.k0 ∧
      P m.falseEasting ∧ P m.falseNorthing := by
  simp [numbers, Ellipsoid.numbers]

theorem forall_numbers_polarStereographic {s : PolarStereographic α} :
    (∀ x ∈ (polarStereographic s).numbers, P x) ↔ P s.ellipsoid.a ∧ P s.ellipsoid.f ∧ P s.latTs ∧
      P s.lon0 ∧ P s.falseEasting ∧ P s.falseNorthing ∧ P s.radiusScale := by
  simp [numbers, Ellipsoid.numbers]

theorem forall_numbers_lambertConformal {c : LambertConformal α} :
    (∀ x ∈ (lambertConformal c).numbers, P x) ↔ P c.lon0 ∧ P c.lat0 ∧ P c.lat1 ∧ P c.lat2 ∧
      P c.radius ∧ P c.falseEasting ∧ P c.falseNorthing ∧ P c.n ∧ P c.f ∧ P c.rho0 := by
  simp [numbers]

end

namespace Plan

-- no parallel is a pole, where nothing is true to scale; the origin may be one, but not the north pole
-- of a southern cone, where the exact tangent is infinite and that of a machine merely great
open scoped Exact in
/-- The parallels of a cone lie between the poles; the origin may be a pole, though not the north pole
above a southern apex. -/
def IsWithin : Plan ℝ → Prop
  | lambertConformal lat0 _ lat1 lat2 _ _ => |lat0| ≤ 90 ∧ |lat1| < 90 ∧ |lat2| < 90 ∧
    (lat0 = 90 →
      0 ≤ LambertConformal.realConeConstant (lat1 * (Real.pi / 180)) (lat2 * (Real.pi / 180)))
  | _ => True

open scoped Exact in
/-- The plan draws the globe on more than a point and less than the whole line or plane. -/
def IsRegular (e : Ellipsoid ℝ) : Plan ℝ → Prop
  | longLat => True
  | mercator stretch _ _ _ => e.a ≠ 0 ∧ stretch.IsRegular e.f
  | polarStereographic lat0 latTs _ _ _ =>
    PolarStereographic.IsRegular e.a e.f ((if lat0 < 0 then -latTs else latTs) * (Real.pi / 180))
  | lambertConformal lat0 _ lat1 lat2 _ _ => LambertConformal.IsRegular lat0 lat1 lat2

end Plan

theorem isReal_numbers (a f : ℝ) :
    ∀ x ∈ (⟨real a, real f⟩ : Ellipsoid (Guarded (Extended ℝ))).numbers, IsReal x := by
  simp only [Ellipsoid.numbers, List.forall_mem_cons]
  exact ⟨isReal_real a, isReal_real f, List.forall_mem_nil _⟩

section

variable (a f lon0 falseEasting falseNorthing : ℝ)

theorem isSound_longLat : IsSound ⟨real a, real f⟩ (longLat ⟨real a, real f⟩) :=
  ⟨isReal_numbers a f, isReal_numbers a f, nofun⟩

theorem isSound_mercator_iff (k0 : Guarded (Extended ℝ)) :
    IsSound ⟨real a, real f⟩ (mercator (.ofDegrees ⟨real a, real f⟩ (real lon0) k0
      (real falseEasting) (real falseNorthing))) ↔ a ≠ 0 ∧ ∃ k, k ≠ 0 ∧ k0 = real k := by
  constructor
  · intro h
    obtain ⟨-, -, -, ⟨k, rfl⟩, -⟩ := forall_numbers_mercator.1 h.numbers
    have hscale : a * k ≠ 0 := fun hzero =>
      h.divisors (real a * real k) (List.mem_singleton_self _) (congrArg real hzero)
    exact ⟨left_ne_zero_of_mul hscale, k, right_ne_zero_of_mul hscale, rfl⟩
  · rintro ⟨ha, k, hk, rfl⟩
    refine ⟨isReal_numbers a f, forall_numbers_mercator.2 ?_, ?_⟩
    · exact ⟨isReal_real a, isReal_real f, Angle.isReal_radians lon0, isReal_real k,
        isReal_real falseEasting, isReal_real falseNorthing⟩
    · simp only [divisors, List.forall_mem_singleton]
      exact Guarded.real_injective.ne (mul_ne_zero ha hk)

theorem isSound_polarStereographic_iff (south : Bool) (latTs : ℝ) :
    IsSound ⟨real a, real f⟩ (polarStereographic (.ofDegrees ⟨real a, real f⟩ south (real latTs)
      (real lon0) (real falseEasting) (real falseNorthing))) ↔
        PolarStereographic.IsRegular a f ((if south then -latTs else latTs) * (Real.pi / 180)) := by
  have hscale : (PolarStereographic.ofDegrees ⟨real a, real f⟩ south (real latTs) (real lon0)
      (real falseEasting) (real falseNorthing)).radiusScale = PolarStereographic.radiusScaleOf
        ⟨real a, real f⟩ (real ((if south then -latTs else latTs) * (Real.pi / 180))) := by
    rw [← Angle.radians_real, apply_ite real, ← Guarded.real_neg]
    rfl
  rw [PolarStereographic.isRegular_iff, ← hscale]
  constructor
  · intro h
    obtain ⟨-, -, -, -, -, -, r, hr⟩ := forall_numbers_polarStereographic.1 h.numbers
    refine ⟨r, ?_, hr⟩
    rintro rfl
    exact h.divisors _ (List.mem_singleton_self _) hr
  · rintro ⟨r, hr, hreal⟩
    refine ⟨isReal_numbers a f, forall_numbers_polarStereographic.2 ?_, ?_⟩
    · exact ⟨isReal_real a, isReal_real f, Angle.isReal_radians latTs, Angle.isReal_radians lon0,
        isReal_real falseEasting, isReal_real falseNorthing, ⟨r, hreal⟩⟩
    · simp only [divisors, List.forall_mem_singleton]
      rw [hreal]
      exact Guarded.real_injective.ne hr

end

section

variable {lat0 lon0 lat1 lat2 radius falseEasting falseNorthing : ℝ}

/-- The numbers of a cone that are real tell the origin from the pole opposite the apex. -/
theorem isRegular_of_isSound {e : Ellipsoid (Guarded (Extended ℝ))} (h0 : |lat0| ≤ 90)
    (h1 : |lat1| < 90) (h2 : |lat2| < 90)
    (hnorth : lat0 = 90 → 0 ≤ LambertConformal.realConeConstant (lat1 * (Real.pi / 180))
      (lat2 * (Real.pi / 180)))
    (h : IsSound e (lambertConformal
      (.ofReal lat0 lon0 lat1 lat2 radius falseEasting falseNorthing))) :
    LambertConformal.IsRegular lat0 lat1 lat2 := by
  generalize hc : LambertConformal.ofReal lat0 lon0 lat1 lat2 radius falseEasting falseNorthing = c
    at h
  obtain ⟨hcone, -, horigin⟩ := LambertConformal.built_ofReal hc.symm
  obtain ⟨-, -, -, -, -, -, -, -, ⟨f, hf⟩, hrho0⟩ := forall_numbers_lambertConformal.1 h.numbers
  rw [LambertConformal.coneConstantOf_real (Angle.abs_latitude_lt h1)
    (Angle.abs_latitude_lt h2)] at hcone
  have hne := h.divisors c.n List.mem_cons_self
  rw [hcone, Guarded.real_injective.ne_iff] at hne
  rw [horigin, hcone, hf, Guarded.real_mul,
    LambertConformal.isReal_rho0_iff h0 hnorth hne] at hrho0
  exact ⟨(LambertConformal.hasCone_iff h1 h2).2 hne, hrho0⟩

theorem isSound_of_isRegular {e : Ellipsoid (Guarded (Extended ℝ))}
    (he : ∀ x ∈ e.numbers, IsReal x) (h0 : |lat0| ≤ 90) (h1 : |lat1| < 90) (h2 : |lat2| < 90)
    (hnorth : lat0 = 90 → 0 ≤ LambertConformal.realConeConstant (lat1 * (Real.pi / 180))
      (lat2 * (Real.pi / 180)))
    (h : LambertConformal.IsRegular lat0 lat1 lat2) :
    IsSound e (lambertConformal
      (.ofReal lat0 lon0 lat1 lat2 radius falseEasting falseNorthing)) := by
  obtain ⟨hn, hf, hrho0⟩ := LambertConformal.built_ofReal
    (rfl : LambertConformal.ofReal lat0 lon0 lat1 lat2 radius falseEasting falseNorthing = _)
  obtain ⟨hcone, horigin⟩ := h
  have hphi1 := Angle.abs_latitude_lt h1
  have hne := (LambertConformal.hasCone_iff h1 h2).1 hcone
  obtain ⟨f, hfne, hfactor⟩ := LambertConformal.exists_factor_real hphi1 hne
  rw [LambertConformal.coneConstantOf_real hphi1 (Angle.abs_latitude_lt h2)] at hn
  rw [hn, hfactor] at hf
  rw [hn, hf, Guarded.real_mul] at hrho0
  refine ⟨he, forall_numbers_lambertConformal.2 ?_, ?_⟩
  · exact ⟨Angle.isReal_radians lon0, Angle.isReal_radians lat0, Angle.isReal_radians lat1,
      Angle.isReal_radians lat2, isReal_real radius, isReal_real falseEasting,
      isReal_real falseNorthing, ⟨_, hn⟩, ⟨_, hf⟩,
      hrho0 ▸ (LambertConformal.isReal_rho0_iff h0 hnorth hne _).2 horigin⟩
  · simp only [divisors, List.forall_mem_cons]
    rw [hn, hf]
    exact ⟨Guarded.real_injective.ne hne, Guarded.real_injective.ne hfne, nofun⟩

end

theorem isUsable_mercator {e : Ellipsoid (Guarded (Extended ℝ))}
    {m : Mercator (Guarded (Extended ℝ))} (h : IsSound e (mercator m)) : IsUsable (mercator m) := by
  obtain ⟨⟨a, ha⟩, ⟨f, hf⟩, ⟨lam0, hlon0⟩, ⟨k, hk⟩, ⟨x, hx⟩, y, hy⟩ :=
    forall_numbers_mercator.1 h.numbers
  have hscale : m.equatorScale = real (a * k) := by
    unfold Mercator.equatorScale
    rw [ha, hk, Guarded.real_mul]
  have hne : a * k ≠ 0 := by
    intro hzero
    exact h.divisors _ (List.mem_singleton_self _) (hscale.trans (congrArg real hzero))
  exact Mercator.isUsable_of_isScaled ⟨hf, hscale, hne, hlon0, hx, hy⟩

theorem isUsable_polarStereographic {e : Ellipsoid (Guarded (Extended ℝ))}
    {s : PolarStereographic (Guarded (Extended ℝ))} {phi : Guarded (Extended ℝ)}
    (hscale : s.radiusScale = PolarStereographic.radiusScaleOf s.ellipsoid phi)
    (h : IsSound e (polarStereographic s)) : IsUsable (polarStereographic s) := by
  obtain ⟨-, ⟨f, hf⟩, -, ⟨lam0, hlon0⟩, ⟨x, hx⟩, ⟨y, hy⟩, r, hr⟩ :=
    forall_numbers_polarStereographic.1 h.numbers
  have heccentricity : 0 ≤ f * (2 - f) := by
    by_contra hneg
    exact PolarStereographic.radiusScaleOf_ne_real hf (not_le.1 hneg) phi r (hscale.symm.trans hr)
  have hne : r ≠ 0 := by
    rintro rfl
    exact h.divisors _ (List.mem_singleton_self _) hr
  exact PolarStereographic.isUsable_of_isScaled
    ⟨Latitude.eccentricity_of_nonneg hf heccentricity, Real.sqrt_nonneg _,
      Latitude.sqrt_le_one f, hr, hne, hlon0, hx, hy⟩

theorem isUsable_lambertConformal {e : Ellipsoid (Guarded (Extended ℝ))}
    {c : LambertConformal (Guarded (Extended ℝ))} (h : IsSound e (lambertConformal c)) :
    IsUsable (lambertConformal c) := by
  obtain ⟨⟨lam0, hlon0⟩, -, -, -, ⟨a, ha⟩, ⟨x, hx⟩, ⟨y, hy⟩, ⟨n, hn⟩, ⟨f, hf⟩, rho0, hrho0⟩ :=
    forall_numbers_lambertConformal.1 h.numbers
  have hne : n ≠ 0 := by
    rintro rfl
    exact h.divisors c.n (List.mem_cons_self ..) hn
  have hscale : c.radius * c.f = real (a * f) := by rw [ha, hf, Guarded.real_mul]
  exact LambertConformal.isUsable_of_isPointed ⟨hn, hne, hlon0, hscale, hrho0, hx, hy⟩

namespace Plan

variable {a f : ℝ}

/-- A plan is sound on an ellipsoid exactly when it is regular there. -/
theorem isSound_iff {plan : Plan ℝ} (h : plan.IsWithin) :
    IsSound ⟨real a, real f⟩ ((plan.map real).projection ⟨real a, real f⟩) ↔
      plan.IsRegular ⟨a, f⟩ := by
  cases plan with
  | longLat => exact iff_of_true (isSound_longLat a f) trivial
  | mercator stretch lon0 falseEasting falseNorthing =>
    refine (isSound_mercator_iff a f lon0 falseEasting falseNorthing _).trans ?_
    rw [← Mercator.Stretch.isRegular_iff rfl]
    rfl
  | polarStereographic lat0 latTs lon0 falseEasting falseNorthing =>
    have hsouth : real lat0 < 0 ↔ lat0 < 0 := by rw [Guarded.zero_eq, Guarded.real_lt]
    refine (isSound_polarStereographic_iff a f lon0 falseEasting falseNorthing _ latTs).trans ?_
    simp only [decide_eq_true_iff, hsouth]
    rfl
  | lambertConformal lat0 lon0 lat1 lat2 falseEasting falseNorthing =>
    obtain ⟨h0, h1, h2, hnorth⟩ := h
    exact ⟨isRegular_of_isSound h0 h1 h2 hnorth,
      isSound_of_isRegular (isReal_numbers a f) h0 h1 h2 hnorth⟩

theorem isUsable_of_isSound {plan : Plan (Guarded (Extended ℝ))}
    {e : Ellipsoid (Guarded (Extended ℝ))} (h : IsSound e (plan.projection e)) :
    IsUsable (plan.projection e) := by
  cases plan with
  | longLat => exact isUsable_longLat _
  | mercator stretch lon0 falseEasting falseNorthing => exact isUsable_mercator h
  | polarStereographic lat0 latTs lon0 falseEasting falseNorthing =>
    exact isUsable_polarStereographic rfl h
  | lambertConformal lat0 lon0 lat1 lat2 falseEasting falseNorthing =>
    exact isUsable_lambertConformal h

end Plan

end Projection

end Graticule
