import Graticule.Proofs.Angle
import Graticule.Proofs.Projection.Numbers
import Graticule.Proofs.Projection.Text

/-!
# Recovery of a projection from its text

What is read back from the text of a projection has the same numbers, except that a flattening went
through two reciprocals and that a flattening of zero lost its sign.  No derived number sees that
sign, so the two projections are equal by the test exactly when the flattening came back:
`Projection.reread_beq_iff`.  Machine numbers have what this asks of scalars, and so have the reals
with infinities.  There every angle comes back, `isExactAngle_iff`, and every finite flattening,
`Ellipsoid.isRecovered_of_isFinite`.
-/

namespace Graticule

/-- Scalars that the test for equality tells apart, but for the sign of zero, on which the scale of a
plane does not depend. -/
class Scalar.Discerning (α : Type) [Elementary α] : Prop
    extends Scalar.FiniteRefl α, PartialEquivBEq α where
  isFinite_zero : Scalar.isFinite (0 : α) = true
  eq_of_beq : ∀ x y : α, (x == y) = true → ¬(y == 0) = true → x = y
  not_isFinite_inv : ∀ x : α, (x == 0) = true → ¬Scalar.isFinite (1 / x) = true
  radiusScaleOf_of_isSphere : ∀ (e : Ellipsoid α) (phi : α), e.isSphere = true →
    PolarStereographic.radiusScaleOf e phi = PolarStereographic.radiusScaleOf (.sphere e.a) phi

/-! ## A flattening of zero has two signs -/

namespace Ellipsoid

theorem isSphere_iff {e : Ellipsoid Float} : e.isSphere = true ↔ e.f = 0 ∨ e.f = -0 := by
  constructor
  · intro h
    obtain hf | ⟨hf, -⟩ | ⟨hf, -⟩ := Binary64.eq_of_beq h
    · exact .inl hf
    · exact .inl hf
    · exact .inr hf
  · unfold isSphere
    rintro (hf | hf) <;> rw [hf] <;> decide +kernel

end Ellipsoid

namespace PolarStereographic

theorem isometric_of_beq_zero (phi : Float) {e : Float} (he : (0.5 * e == 0) = true) :
    Latitude.isometric phi e = Elementary.tan (Angle.halfRight - 0.5 * phi) / 1 := by
  have hpow : Elementary.pow (Latitude.sineRatio phi e) (0.5 * e) = 1 := if_pos he
  unfold Latitude.isometric
  rw [hpow]

theorem parallelRadius_neg_zero (phi : Float) :
    Latitude.parallelRadius phi (-0) = Latitude.parallelRadius phi 0 := by
  have hsquare : (-0 * -0 : Float) = 0 * 0 := by decide +kernel
  simp only [Latitude.parallelRadius, hsquare]

/-- The scale does not see the sign of a flattening of zero. -/
theorem radiusScaleOf_of_isSphere {e : Ellipsoid Float} (h : e.isSphere = true) (latTs : Float) :
    radiusScaleOf e latTs = radiusScaleOf (.sphere e.a) latTs := by
  have hzero : (Ellipsoid.sphere e.a).eccentricity = 0 := by
    change Float.sqrt (0 * (2 - 0)) = 0
    decide +kernel
  obtain hf | hf := Ellipsoid.isSphere_iff.1 h
  · have hsame : e = .sphere e.a := congrArg (Ellipsoid.mk e.a) hf
    rw [← hsame]
  · have hnegative : e.eccentricity = -0 := by
      unfold Ellipsoid.eccentricity
      rw [hf]
      change Float.sqrt (-0 * (2 - -0)) = -0
      decide +kernel
    -- the power to half the eccentricity is one, and all else sees its square or adds it to one
    have hisometric : Latitude.isometric latTs (-0) = Latitude.isometric latTs 0 := by
      rw [isometric_of_beq_zero latTs (by decide +kernel), isometric_of_beq_zero latTs
        (by decide +kernel)]
    simp only [radiusScaleOf]
    rw [hzero, hnegative, parallelRadius_neg_zero, hisometric]
    have hpole : (1 + (-0 : Float)) = 1 + 0 ∧ (1 - (-0 : Float)) = 1 - 0 := by decide +kernel
    exact congrArg₂ (fun u v => if Scalar.abs (latTs - Angle.right) < poleTolerance then
      2 * e.a / Elementary.sqrt (Elementary.pow u u * Elementary.pow v v)
        else e.a * Latitude.parallelRadius latTs 0 / Latitude.isometric latTs 0) hpole.1 hpole.2

end PolarStereographic

instance Binary64.discerning : Scalar.Discerning Float where
  symm := PartialEquivBEq.symm
  trans := PartialEquivBEq.trans
  isFinite_zero := by decide +kernel
  eq_of_beq x y h hy := by
    obtain heq | ⟨-, rfl⟩ | ⟨-, rfl⟩ := Binary64.eq_of_beq h
    · exact heq
    · exact absurd (by decide +kernel) hy
    · exact absurd (by decide +kernel) hy
  not_isFinite_inv x hx := by
    obtain rfl | ⟨rfl, -⟩ | ⟨rfl, -⟩ := Binary64.eq_of_beq hx <;> decide +kernel
  radiusScaleOf_of_isSphere _ phi h := PolarStereographic.radiusScaleOf_of_isSphere h phi

/-! ## What the two reciprocals give back -/

section

variable {α : Type} [Elementary α]

namespace Ellipsoid

theorem reread_of_isSphere {e : Ellipsoid α} (h : e.isSphere = true) :
    e.reread = .sphere e.a := if_pos h

theorem reread_of_not_isSphere {e : Ellipsoid α} (h : ¬e.isSphere = true) :
    e.reread = ⟨e.a, if 1 / e.f == 0 then 0 else 1 / (1 / e.f)⟩ := by
  have hinverse : e.inverseFlattening = 1 / e.f := if_neg h
  unfold reread
  rw [if_neg h, hinverse]

variable [Scalar.Discerning α]

theorem reread_of_isRecovered {e : Ellipsoid α} (hsphere : ¬e.isSphere = true)
    (hfinite : Scalar.isFinite e.f = true) (h : e.IsRecovered) : e.reread = e := by
  have hback : 1 / (1 / e.f) = e.f :=
    Scalar.Discerning.eq_of_beq _ _ (h.resolve_left hsphere) hsphere
  have hne : ¬(1 / e.f == 0) = true := by
    -- its reciprocal would be infinite, but is the flattening
    intro hzero
    apply Scalar.Discerning.not_isFinite_inv _ hzero
    rwa [hback]
  rw [reread_of_not_isSphere hsphere, if_neg hne]
  exact congrArg (Ellipsoid.mk e.a) hback

theorem isRecovered_of_beq {e : Ellipsoid α} (h : (e.reread.f == e.f) = true) :
    e.IsRecovered := by
  by_cases hsphere : e.isSphere = true
  · exact .inl hsphere
  · rw [reread_of_not_isSphere hsphere] at h
    dsimp only at h
    split_ifs at h
    · exact .inl (PartialEquivBEq.symm h)
    · exact .inr h

end Ellipsoid

namespace Projection

theorem reread_eq_of_ellipsoid {p : Parameters α}
    (h : p.projection.ellipsoid.reread = p.projection.ellipsoid) :
    p.reread.projection = p.projection := by
  cases p with
  | longLat e => exact congrArg longLat h
  | mercator e lon0 k0 falseEasting falseNorthing =>
    exact congrArg (fun e => mercator (.ofDegrees e lon0 k0 falseEasting falseNorthing)) h
  | polarStereographic e south latTs lon0 falseEasting falseNorthing =>
    exact congrArg
      (fun e => polarStereographic (.ofDegrees e south latTs lon0 falseEasting falseNorthing)) h
  | lambertConformal lat0 lon0 lat1 lat2 radius falseEasting falseNorthing => rfl

theorem ellipsoid_reread [Written α] [Scalar.Legible α] (p : Parameters α) :
    p.reread.projection.ellipsoid = p.projection.ellipsoid.reread := by
  cases p with
  | lambertConformal lat0 lon0 lat1 lat2 radius falseEasting falseNorthing =>
    exact (reread_sphere radius).symm
  | _ => rfl

variable [Scalar.Discerning α]

theorem ellipsoid_beq {p q : Projection α} (h : (p == q) = true) :
    (p.ellipsoid.a == q.ellipsoid.a) = true ∧ (p.ellipsoid.f == q.ellipsoid.f) = true := by
  obtain ⟨hshape, hnumbers⟩ := beq_iff_numbers.1 h
  have hzero := Scalar.FiniteRefl.beq_self (0 : α) Scalar.Discerning.isFinite_zero
  cases p <;> cases q <;> simp_all [shape, numbers, Ellipsoid.numbers, ellipsoid, Ellipsoid.sphere]

theorem forall₂_numbers_sphere {e : Ellipsoid α} (hsphere : e.isSphere = true)
    {rest : List α} (hself : ∀ x ∈ e.numbers ++ rest, (x == x) = true) :
    List.Forall₂ (fun x y => (x == y) = true) ((Ellipsoid.sphere e.a).numbers ++ rest)
      (e.numbers ++ rest) := by
  refine .cons (hself e.a (by simp [Ellipsoid.numbers])) (.cons (PartialEquivBEq.symm hsphere) ?_)
  exact List.forall₂_same.2 fun x hx => hself x (List.mem_append_right _ hx)

/-- On a sphere what is read differs at most in the sign of a flattening of zero. -/
theorem reread_beq_of_isSphere {p : Parameters α}
    (hself : ∀ x ∈ p.projection.numbers, (x == x) = true)
    (hsphere : p.projection.ellipsoid.isSphere = true) :
    (p.reread.projection == p.projection) = true := by
  rw [beq_iff_numbers]
  cases p with
  | longLat e =>
    change e.isSphere = true at hsphere
    refine ⟨rfl, ?_⟩
    change List.Forall₂ _ (e.reread.numbers ++ []) (e.numbers ++ [])
    rw [Ellipsoid.reread_of_isSphere hsphere]
    exact forall₂_numbers_sphere hsphere hself
  | mercator e lon0 k0 falseEasting falseNorthing =>
    change e.isSphere = true at hsphere
    refine ⟨rfl, ?_⟩
    change List.Forall₂ _ (e.reread.numbers ++ _) (e.numbers ++ _)
    rw [Ellipsoid.reread_of_isSphere hsphere]
    exact forall₂_numbers_sphere hsphere hself
  | polarStereographic e south latTs lon0 falseEasting falseNorthing =>
    change e.isSphere = true at hsphere
    refine ⟨rfl, ?_⟩
    change List.Forall₂ _ (e.reread.numbers ++ [_, _, _, _, PolarStereographic.radiusScaleOf e.reread
      (Angle.radians (if south then -latTs else latTs))]) (e.numbers ++ _)
    rw [Ellipsoid.reread_of_isSphere hsphere,
      ← Scalar.Discerning.radiusScaleOf_of_isSphere _ _ hsphere]
    exact forall₂_numbers_sphere hsphere hself
  | lambertConformal lat0 lon0 lat1 lat2 radius falseEasting falseNorthing =>
    exact ⟨rfl, List.forall₂_same.2 hself⟩

theorem isFinite_ellipsoid_f {p : Projection α}
    (hfinite : ∀ x ∈ p.numbers, Scalar.isFinite x = true) :
    Scalar.isFinite p.ellipsoid.f = true := by
  cases p with
  | lambertConformal c => exact Scalar.Discerning.isFinite_zero
  | _ => exact hfinite _ (by simp [numbers, Ellipsoid.numbers, ellipsoid])

/-- What is read back is equal to a projection of finite numbers exactly when the flattening comes
back from its reciprocal. -/
theorem reread_beq_iff [Written α] [Scalar.Legible α] {p : Parameters α}
    (hfinite : ∀ x ∈ p.projection.numbers, Scalar.isFinite x = true) :
    (p.reread.projection == p.projection) = true ↔ p.projection.ellipsoid.IsRecovered := by
  have hself : ∀ x ∈ p.projection.numbers, (x == x) = true :=
    fun x hx => Scalar.FiniteRefl.beq_self x (hfinite x hx)
  constructor
  · intro h
    have hf := (ellipsoid_beq h).2
    rw [ellipsoid_reread] at hf
    exact Ellipsoid.isRecovered_of_beq hf
  · intro h
    by_cases hsphere : p.projection.ellipsoid.isSphere = true
    · exact reread_beq_of_isSphere hself hsphere
    · rw [reread_eq_of_ellipsoid
        (Ellipsoid.reread_of_isRecovered hsphere (isFinite_ellipsoid_f hfinite) h)]
      exact beq_self_iff.2 hself

end Projection

end

/-! ## Exact arithmetic -/

open Extended (finite)

instance Extended.discerning : Scalar.Discerning (Extended ℝ) where
  symm := PartialEquivBEq.symm
  trans := PartialEquivBEq.trans
  beq_self x hx := by
    obtain ⟨v, rfl⟩ := (isFinite_iff x).1 hx
    exact decide_eq_true rfl
  isFinite_zero := rfl
  eq_of_beq _ _ h _ := eq_of_beq h
  not_isFinite_inv x hx := by
    obtain rfl := eq_of_beq hx
    rw [zero_eq, one_eq]
    change ¬Scalar.isFinite (div (finite 1) (finite 0)) = true
    simp [div, Scalar.isFinite]
  radiusScaleOf_of_isSphere e phi h := by
    have hsame : e = .sphere e.a := congrArg (Ellipsoid.mk e.a) (eq_of_beq h)
    rw [← hsame]

theorem Ellipsoid.isRecovered_of_isFinite {e : Ellipsoid (Extended ℝ)}
    (h : Scalar.isFinite e.f = true) : e.IsRecovered := by
  obtain ⟨f, hf⟩ := (Extended.isFinite_iff e.f).1 h
  unfold IsRecovered
  rw [hf, Extended.zero_eq, Extended.one_eq]
  by_cases hzero : f = 0
  · exact .inl (decide_eq_true hzero)
  · refine .inr ?_
    rw [Extended.finite_div _ hzero, Extended.finite_div _ (one_div_ne_zero hzero), one_div_one_div]
    exact decide_eq_true rfl

def Ellipsoid.written {α : Type} [Elementary α] (e : Ellipsoid α) : List α :=
  if e.isSphere then [e.a] else [e.a, e.inverseFlattening]

/-- The numbers that the text of a projection gives, if degrees come back from radians. -/
def Projection.Parameters.written {α : Type} [Elementary α] : Parameters α → List α
  | longLat e => e.written
  | mercator e lon0 k0 falseEasting falseNorthing =>
    e.written ++ [lon0, k0, falseEasting, falseNorthing]
  | polarStereographic e _ latTs lon0 falseEasting falseNorthing =>
    e.written ++ [latTs, lon0, falseEasting, falseNorthing]
  | lambertConformal lat0 lon0 lat1 lat2 radius falseEasting falseNorthing =>
    [lat0, lon0, lat1, lat2, radius, falseEasting, falseNorthing]

section

variable [Written (Extended ℝ)]

theorem isExactAngle_iff (x : Extended ℝ) : IsExactAngle x ↔ IsExact x :=
  and_iff_right (Angle.degrees_radians x)

theorem Ellipsoid.isExact_of_forall_mem {e : Ellipsoid (Extended ℝ)}
    (h : ∀ x ∈ e.written, Graticule.IsExact x) : e.IsExact := by
  unfold written at h
  constructor
  · apply h
    split_ifs <;> exact List.mem_cons_self
  · intro hsphere
    rw [if_neg (Bool.eq_false_iff.1 hsphere)] at h
    exact h _ (by simp)

/-- Angles ask no more than other numbers do. -/
theorem Projection.Parameters.isExact_of_forall_mem {p : Parameters (Extended ℝ)}
    (h : ∀ x ∈ p.written, Graticule.IsExact x) : p.IsExact := by
  cases p with
  | longLat e => exact Ellipsoid.isExact_of_forall_mem h
  | lambertConformal lat0 lon0 lat1 lat2 radius falseEasting falseNorthing =>
    simpa [written, IsExact, isExactAngle_iff] using h
  | _ =>
    obtain ⟨hellipsoid, hrest⟩ := List.forall_mem_append.1 h
    refine ⟨Ellipsoid.isExact_of_forall_mem hellipsoid, ?_⟩
    simpa [isExactAngle_iff] using hrest

end

end Graticule
