import Graticule.Ellipsoid
import Graticule.Proofs.Angle
import Mathlib

/-!
# Latitudes and their isometric variable

The latitude of an isometric variable is found by steps, each from the flattening at one latitude to
the next latitude.  The latitude looked for is the one that a step leaves where it is:
`realRefine_realIsometric`.  Up to an eccentricity of `√(1/2)` a step brings any two latitudes
nearer by the square of the eccentricity, by a bound on its derivative: `abs_realRefine_sub_le`.  So the
steps end near the latitude, whether because the last one was small or because no more are allowed:
`exists_approach_eq`.  On a sphere the first guess is the latitude itself.
-/

namespace Graticule.Latitude

open Extended (finite)

variable {e phi : ℝ}

/-! ## The isometric variable over the reals -/

noncomputable def realSineRatio (phi e : ℝ) : ℝ := (1 - e * Real.sin phi) / (1 + e * Real.sin phi)

open scoped Exact in
noncomputable def realIsometric (phi e : ℝ) : ℝ :=
  Real.tan (Real.pi / 4 - phi / 2) / realSineRatio phi e ^ (e / 2)

theorem realIsometric_eq (phi e : ℝ) :
    realIsometric phi e = Real.tan (Real.pi / 4 - phi / 2) / realSineRatio phi e ^ (e / 2) := rfl

open scoped Exact in
noncomputable def realRefine (t e phi : ℝ) : ℝ :=
  Real.pi / 2 - 2 * Real.arctan (t * realSineRatio phi e ^ (e / 2))

theorem realRefine_eq (t e phi : ℝ) :
    realRefine t e phi = Real.pi / 2 - 2 * Real.arctan (t * realSineRatio phi e ^ (e / 2)) := rfl

theorem abs_mul_sin_lt_one (he : |e| < 1) (phi : ℝ) : |e * Real.sin phi| < 1 := by
  have hsin := Real.abs_sin_le_one phi
  rw [abs_mul]
  nlinarith [abs_nonneg e, abs_nonneg (Real.sin phi)]

theorem realSineRatio_pos (he : |e| < 1) (phi : ℝ) : 0 < realSineRatio phi e := by
  have h := abs_lt.1 (abs_mul_sin_lt_one he phi)
  unfold realSineRatio
  apply div_pos <;> linarith

theorem pow_sineRatio_finite (he : |e| < 1) (phi : ℝ) :
    Elementary.pow (sineRatio (finite phi) (finite e)) (0.5 * finite e) =
      finite (realSineRatio phi e ^ (e / 2)) := by
  have h := abs_lt.1 (abs_mul_sin_lt_one he phi)
  have hhalf : (0.5 * finite e : Extended ℝ) = finite (e / 2) := by
    rw [Extended.decimal_eq, Extended.finite_mul]
    congr 1
    push_cast
    ring
  have hratio : sineRatio (finite phi) (finite e) = finite (realSineRatio phi e) := by
    simp only [sineRatio]
    rw [Extended.sin_finite, Extended.finite_mul, Extended.one_eq, Extended.finite_sub,
      Extended.finite_add, Extended.finite_div _ (by linarith)]
    rfl
  rw [hhalf, hratio, Extended.pow_finite (realSineRatio_pos he phi)]

theorem refine_finite (he : |e| < 1) (t phi : ℝ) :
    refine (finite t) (finite e) (finite phi) = finite (realRefine t e phi) := by
  unfold refine
  rw [pow_sineRatio_finite he, Extended.finite_mul, Angle.right_eq, Extended.atan_finite,
    Extended.ofNat_eq, Extended.finite_mul, Extended.finite_sub]
  rfl

theorem cos_halfRight_sub_pos (hphi : |phi| < Real.pi / 2) :
    0 < Real.cos (Real.pi / 4 - phi / 2) := by
  rw [abs_lt] at hphi
  apply Real.cos_pos_of_mem_Ioo
  constructor <;> linarith

theorem tan_halfRight_sub_pos (hphi : |phi| < Real.pi / 2) :
    0 < Real.tan (Real.pi / 4 - phi / 2) := by
  rw [abs_lt] at hphi
  apply Real.tan_pos_of_pos_of_lt_pi_div_two <;> linarith

theorem realIsometric_pos (he : |e| < 1) (hphi : |phi| < Real.pi / 2) :
    0 < realIsometric phi e :=
  div_pos (tan_halfRight_sub_pos hphi) (Real.rpow_pos_of_pos (realSineRatio_pos he phi) _)

theorem isometric_finite (he : |e| < 1) (hphi : |phi| < Real.pi / 2) :
    isometric (finite phi) (finite e) = finite (realIsometric phi e) := by
  have hpow := Real.rpow_pos_of_pos (realSineRatio_pos he phi) (e / 2)
  have hangle : (Angle.halfRight - 0.5 * finite phi : Extended ℝ) =
      finite (Real.pi / 4 - phi / 2) := by
    rw [Angle.halfRight_eq, Extended.decimal_eq, Extended.finite_mul, Extended.finite_sub]
    congr 1
    push_cast
    ring
  unfold isometric
  rw [hangle, Extended.tan_finite (cos_halfRight_sub_pos hphi).ne', pow_sineRatio_finite he,
    Extended.finite_div _ hpow.ne']
  rfl

/-- A step from the latitude itself stays there. -/
theorem realRefine_realIsometric (he : |e| < 1) (hphi : |phi| < Real.pi / 2) :
    realRefine (realIsometric phi e) e phi = phi := by
  have hpow := Real.rpow_pos_of_pos (realSineRatio_pos he phi) (e / 2)
  rw [abs_lt] at hphi
  rw [realRefine_eq, realIsometric_eq, div_mul_cancel₀ _ hpow.ne',
    Real.arctan_tan (by linarith) (by linarith)]
  ring

/-! ## A step contracts -/

theorem hasDerivAt_realSineRatio (he : |e| < 1) (phi : ℝ) :
    HasDerivAt (fun x => realSineRatio x e)
      (-(2 * e * Real.cos phi) / (1 + e * Real.sin phi) ^ 2) phi := by
  have h := abs_lt.1 (abs_mul_sin_lt_one he phi)
  have hsin : HasDerivAt (fun x => e * Real.sin x) (e * Real.cos phi) phi :=
    (Real.hasDerivAt_sin phi).const_mul e
  refine ((hsin.const_sub 1).div (hsin.const_add 1) (by linarith)).congr_deriv ?_
  congr 1
  ring

theorem hasDerivAt_realRefine (he : |e| < 1) (t phi : ℝ) :
    let u := t * realSineRatio phi e ^ (e / 2)
    HasDerivAt (fun x => realRefine t e x)
      (2 * u / (1 + u ^ 2) * (e ^ 2 * Real.cos phi / (1 - (e * Real.sin phi) ^ 2))) phi := by
  intro u
  have h := abs_lt.1 (abs_mul_sin_lt_one he phi)
  have hratio := realSineRatio_pos he phi
  have hpower := (hasDerivAt_realSineRatio he phi).rpow_const (p := e / 2) (Or.inl hratio.ne')
  refine (((hpower.const_mul t).arctan.const_mul 2).const_sub (Real.pi / 2)).congr_deriv ?_
  have hplus : 1 + e * Real.sin phi ≠ 0 := by linarith
  have hminus : 1 - e * Real.sin phi ≠ 0 := by linarith
  have hproduct : 1 - (e * Real.sin phi) ^ 2 =
      (1 - e * Real.sin phi) * (1 + e * Real.sin phi) := by ring
  have hsquare : 1 + u ^ 2 ≠ 0 := by positivity
  have hinverse : (realSineRatio phi e)⁻¹ = (1 + e * Real.sin phi) / (1 - e * Real.sin phi) :=
    inv_div _ _
  rw [Real.rpow_sub_one hratio.ne', div_eq_mul_inv _ (realSineRatio phi e), hinverse, hproduct]
  change -(2 * (1 / (1 + u ^ 2) * _)) = _
  have hu : t * realSineRatio phi e ^ (e / 2) = u := rfl
  generalize realSineRatio phi e ^ (e / 2) = q at hu ⊢
  clear_value u
  subst hu
  field_simp

theorem abs_lt_one_of_sq_le (he : e ^ 2 ≤ 1 / 2) : |e| < 1 := by
  rw [← sq_lt_one_iff_abs_lt_one]
  linarith

theorem abs_two_mul_div_le_one (u : ℝ) : |2 * u / (1 + u ^ 2)| ≤ 1 := by
  rw [abs_le, le_div_iff₀ (by positivity), div_le_iff₀ (by positivity)]
  constructor
  · nlinarith [sq_nonneg (u + 1)]
  · nlinarith [sq_nonneg (u - 1)]

theorem abs_cos_div_le_one (he : e ^ 2 ≤ 1 / 2) (phi : ℝ) :
    |Real.cos phi / (1 - (e * Real.sin phi) ^ 2)| ≤ 1 := by
  have hcos := Real.abs_cos_le_one phi
  have hunit := Real.sin_sq_add_cos_sq phi
  have hsquare : |Real.cos phi| ^ 2 = Real.cos phi ^ 2 := sq_abs _
  have hbound : |Real.cos phi| ≤ 1 - (e * Real.sin phi) ^ 2 := by
    have : 1 - (e * Real.sin phi) ^ 2 - |Real.cos phi| =
        (1 - |Real.cos phi|) * (1 - e ^ 2 * (1 + |Real.cos phi|)) := by
      rw [mul_pow]
      linear_combination (-e^2) * hunit - e ^ 2 * hsquare
    have hfactor : 0 ≤ 1 - e ^ 2 * (1 + |Real.cos phi|) := by nlinarith [sq_nonneg e]
    nlinarith
  have hpos : 0 < 1 - (e * Real.sin phi) ^ 2 := by
    have := Real.sin_sq_le_one phi
    rw [mul_pow]
    nlinarith [sq_nonneg e]
  rw [abs_div, abs_of_pos hpos]
  exact div_le_one_of_le₀ hbound hpos.le

/-- A step brings two latitudes nearer by the square of the eccentricity. -/
theorem abs_realRefine_sub_le (he : e ^ 2 ≤ 1 / 2) (t x y : ℝ) :
    |realRefine t e x - realRefine t e y| ≤ e ^ 2 * |x - y| := by
  have hlt := abs_lt_one_of_sq_le he
  refine convex_univ.norm_image_sub_le_of_norm_hasDerivWithin_le
    (fun phi _ => (hasDerivAt_realRefine hlt t phi).hasDerivWithinAt) (fun phi _ => ?_)
    (Set.mem_univ y) (Set.mem_univ x)
  have hfirst := abs_two_mul_div_le_one (t * realSineRatio phi e ^ (e / 2))
  have hsecond := abs_cos_div_le_one he phi
  rw [Real.norm_eq_abs, abs_mul, mul_div_assoc (e ^ 2), abs_mul (e ^ 2),
    abs_of_nonneg (sq_nonneg e)]
  calc _ ≤ 1 * (e ^ 2 * 1) := by gcongr
    _ = e ^ 2 := by ring

/-- A step leaves one latitude where it is, and no other. -/
theorem eq_of_realRefine_eq (he : e ^ 2 ≤ 1 / 2) {t x y : ℝ} (hx : realRefine t e x = x)
    (hy : realRefine t e y = y) : x = y := by
  have hnearer := abs_realRefine_sub_le he t x y
  rw [hx, hy] at hnearer
  have hhalf : e ^ 2 * |x - y| ≤ 1 / 2 * |x - y| := by gcongr
  have hzero : |x - y| ≤ 0 := by linarith
  exact sub_eq_zero.1 (abs_nonpos_iff.1 hzero)

/-! ## The approach -/

/-- How far from the latitude the steps may end, in radians. -/
noncomputable def errorBound (e : ℝ) : ℝ := max 1e-15 (Real.pi * e ^ 60)

theorem lastStep_eq : (lastStep : Extended ℝ) = finite 1e-15 := by
  unfold lastStep
  rw [Extended.decimal_eq]
  norm_num

/-- The first guess, as if the globe were a sphere. -/
theorem firstGuess_eq (t : ℝ) :
    (Angle.right - 2 * Elementary.atan (finite t) : Extended ℝ) =
      finite (Real.pi / 2 - 2 * Real.arctan t) := by
  rw [Angle.right_eq, Extended.atan_finite, Extended.ofNat_eq, Extended.finite_mul,
    Extended.finite_sub]

/-- Steps that contract end near their fixed point, whether for a small last step or for their
number. -/
theorem exists_approach_eq (he : e ^ 2 ≤ 1 / 2) {t target : ℝ}
    (hfixed : realRefine t e target = target) (n : ℕ) (x : ℝ) :
    ∃ psi, approach (finite t) (finite e) n (finite x) = finite psi ∧
      |psi - target| ≤ max 1e-15 ((e ^ 2) ^ n * |x - target|) := by
  have hlt := abs_lt_one_of_sq_le he
  induction n generalizing x with
  | zero => exact ⟨x, rfl, by simp⟩
  | succ n ih =>
    have hnearer := abs_realRefine_sub_le he t x target
    rw [hfixed] at hnearer
    simp only [approach, refine_finite hlt, Extended.finite_sub, Extended.finite_add,
      Extended.abs_finite, lastStep_eq, Extended.finite_le, add_sub_cancel]
    split_ifs with hsmall
    · refine ⟨realRefine t e x, rfl, le_max_of_le_left ?_⟩
      -- the last step was longer than half the way that was left
      have htriangle := abs_sub_le x (realRefine t e x) target
      have hhalf : e ^ 2 * |x - target| ≤ 1 / 2 * |x - target| := by gcongr
      rw [abs_sub_comm x (realRefine t e x)] at htriangle
      linarith
    · obtain ⟨psi, hpsi, hnear⟩ := ih (realRefine t e x)
      refine ⟨psi, hpsi, hnear.trans (max_le_max_left _ ?_)⟩
      calc (e ^ 2) ^ n * |realRefine t e x - target|
          ≤ (e ^ 2) ^ n * (e ^ 2 * |x - target|) := by gcongr
        _ = (e ^ 2) ^ (n + 1) * |x - target| := by ring

theorem exists_ofIsometric_eq (he : e ^ 2 ≤ 1 / 2) (hphi : |phi| < Real.pi / 2) :
    ∃ psi, ofIsometric (finite (realIsometric phi e)) (finite e) = finite psi ∧
      |psi - phi| ≤ errorBound e := by
  have hlt := abs_lt_one_of_sq_le he
  set t := realIsometric phi e
  obtain ⟨psi, hpsi, hnear⟩ := exists_approach_eq he (realRefine_realIsometric hlt hphi) mostSteps
    (Real.pi / 2 - 2 * Real.arctan t)
  refine ⟨psi, ?_, hnear.trans (max_le_max_left _ ?_)⟩
  · unfold ofIsometric
    rw [firstGuess_eq, hpsi]
  · have hstart : |Real.pi / 2 - 2 * Real.arctan t - phi| ≤ Real.pi := by
      have hlow := Real.arctan_pos.2 (realIsometric_pos hlt hphi)
      have hhigh := Real.arctan_lt_pi_div_two t
      rw [abs_lt] at hphi
      rw [abs_le]
      constructor <;> linarith
    calc (e ^ 2) ^ mostSteps * |Real.pi / 2 - 2 * Real.arctan t - phi|
        ≤ (e ^ 2) ^ mostSteps * Real.pi := by gcongr
      _ = Real.pi * e ^ 60 := by
        rw [← pow_mul, mul_comm]
        rfl

/-! ## Spheres -/

theorem realSineRatio_sphere (phi : ℝ) : realSineRatio phi 0 = 1 := by
  unfold realSineRatio
  rw [zero_mul, sub_zero, add_zero, div_one]

theorem realRefine_sphere (t phi : ℝ) : realRefine t 0 phi = Real.pi / 2 - 2 * Real.arctan t := by
  rw [realRefine_eq, realSineRatio_sphere, Real.one_rpow, mul_one]

/-- The steps stay where a step leaves a latitude. -/
theorem approach_of_fixed (he : |e| < 1) {t x : ℝ} (hfixed : realRefine t e x = x) (n : ℕ) :
    approach (finite t) (finite e) n (finite x) = finite x := by
  cases n with
  | zero => rfl
  | succ n =>
    have hsmall : Scalar.abs (finite (0 : ℝ)) ≤ lastStep := by
      rw [lastStep_eq, Extended.abs_finite, Extended.finite_le, abs_zero]
      norm_num
    simp only [approach, refine_finite he, hfixed, Extended.finite_sub, Extended.finite_add,
      sub_self, add_zero]
    rw [if_pos hsmall]

theorem ofIsometric_realIsometric_sphere (hphi : |phi| < Real.pi / 2) :
    ofIsometric (finite (realIsometric phi 0)) (finite 0) = finite phi := by
  have hzero : |(0 : ℝ)| < 1 := by rw [abs_zero]; exact one_pos
  have hfixed := realRefine_realIsometric hzero hphi
  have hguess : Real.pi / 2 - 2 * Real.arctan (realIsometric phi 0) = phi := by
    rw [← realRefine_sphere _ phi, hfixed]
  unfold ofIsometric
  rw [firstGuess_eq, hguess, approach_of_fixed hzero hfixed]

/-! ## Eccentricities and parallels -/

theorem eccentricity_finite (a : ℝ) {f : ℝ} (hf : 0 ≤ f * (2 - f)) :
    (⟨finite a, finite f⟩ : Ellipsoid (Extended ℝ)).eccentricity = finite √(f * (2 - f)) := by
  unfold Ellipsoid.eccentricity
  rw [Extended.ofNat_eq, Extended.finite_sub, Extended.finite_mul, Extended.sqrt_finite hf]

theorem eccentricity_sphere (a : ℝ) : (Ellipsoid.sphere (finite a)).eccentricity = finite 0 := by
  have hzero : (0 : ℝ) * (2 - 0) = 0 := zero_mul _
  unfold Ellipsoid.sphere
  rw [Extended.zero_eq, eccentricity_finite a hzero.ge, hzero, Real.sqrt_zero]

theorem exists_parallelRadius_eq (he : |e| < 1) (hphi : |phi| < Real.pi / 2) :
    ∃ r, 0 < r ∧ parallelRadius (finite phi) (finite e) = finite r := by
  have h := abs_lt.1 (abs_mul_sin_lt_one he phi)
  have hcos := Real.cos_pos_of_mem_Ioo (abs_lt.1 hphi)
  have hpos : 0 < 1 - e * e * Real.sin phi * Real.sin phi := by nlinarith
  have hroot := Real.sqrt_pos.2 hpos
  refine ⟨_, div_pos hcos hroot, ?_⟩
  simp only [parallelRadius]
  rw [Extended.sin_finite, Extended.cos_finite, Extended.finite_mul, Extended.finite_mul,
    Extended.finite_mul, Extended.one_eq, Extended.finite_sub, Extended.sqrt_finite hpos.le,
    Extended.finite_div _ hroot.ne']

end Graticule.Latitude
