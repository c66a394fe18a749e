import Graticule.Affine
import Graticule.Proofs.Scalar.Extended
import Mathlib.Tactic.LinearCombination
import Mathlib.Tactic.Ring

/-!
# Affine maps over exact scalars

Composition is associative, and the inverse of a map that is not negligible undoes it:
`inverse_mul_cancel`.  A map keeps its scale and its determinant under shifts of its source.  A map
whose coefficients are finite, `Affine.finite`, acts on finite points as the map of the field does.
-/

namespace Graticule.Affine

open scoped Exact

variable {K : Type} [Field K] [LinearOrder K] [FloorRing K]

omit [Field K] [LinearOrder K] [FloorRing K] in
theorem ext {t u : Affine K} (ha : t.a = u.a) (hb : t.b = u.b) (hc : t.c = u.c) (hd : t.d = u.d)
    (he : t.e = u.e) (hf : t.f = u.f) : t = u := by
  cases t
  cases u
  simp_all

omit [Field K] [FloorRing K] in
theorem beq_iff (t u : Affine K) : (t == u) = true ↔ t = u := by
  cases t
  cases u
  change (_ && (_ && (_ && (_ && (_ && _))))) = true ↔ _
  simp

theorem identity_eq : (identity : Affine K) = ⟨1, 0, 0, 0, 1, 0⟩ := by
  simp [identity, Exact.numeral_eq]

theorem translation_eq (x y : K) : translation x y = ⟨1, 0, x, 0, 1, y⟩ := by
  simp [translation, Exact.numeral_eq]

theorem scale_eq (x y : K) : scale x y = ⟨x, 0, 0, 0, y, 0⟩ := by
  simp [scale, Exact.numeral_eq]

theorem mul_eq (t u : Affine K) :
    t * u =
      ⟨t.a * u.a + t.b * u.d, t.a * u.b + t.b * u.e, t.a * u.c + t.b * u.f + t.c,
        t.d * u.a + t.e * u.d, t.d * u.b + t.e * u.e, t.d * u.c + t.e * u.f + t.f⟩ := rfl

theorem isAxisAligned_iff (t : Affine K) : t.isAxisAligned = true ↔ t.b = 0 ∧ t.d = 0 := by
  unfold isAxisAligned
  simp [Exact.numeral_eq]

theorem mul_assoc (t u v : Affine K) : t * u * v = t * (u * v) := by
  simp only [mul_eq]
  apply ext <;> ring

theorem identity_mul (t : Affine K) : identity * t = t := by
  rw [identity_eq, mul_eq]
  apply ext <;> ring

theorem mul_identity (t : Affine K) : t * identity = t := by
  rw [identity_eq, mul_eq]
  apply ext <;> ring

theorem apply_mul (t u : Affine K) (p : Position K) : (t * u).apply p = t.apply (u.apply p) := by
  rw [mul_eq]
  simp only [apply]
  congr 1 <;> ring

theorem mul_translation (t : Affine K) (x y : K) :
    t * translation x y = ⟨t.a, t.b, t.a * x + t.b * y + t.c, t.d, t.e, t.d * x + t.e * y + t.f⟩ := by
  rw [translation_eq, mul_eq]
  apply ext <;> ring

theorem translation_mul_translation (x y x' y' : K) :
    (translation x y * translation x' y' : Affine K) = translation (x + x') (y + y') := by
  simp only [translation_eq, mul_eq]
  apply ext <;> ring

theorem mul_scale (t : Affine K) (x y : K) :
    t * scale x y = ⟨x * t.a, y * t.b, t.c, x * t.d, y * t.e, t.f⟩ := by
  rw [scale_eq, mul_eq]
  apply ext <;> ring

theorem scale_mul_scale (x y x' y' : K) :
    (scale x y * scale x' y' : Affine K) = scale (x * x') (y * y') := by
  simp only [scale_eq, mul_eq]
  apply ext <;> ring

theorem isAxisAligned_scale (x y : K) : (scale x y : Affine K).isAxisAligned = true := by
  rw [isAxisAligned_iff, scale_eq]
  exact ⟨rfl, rfl⟩

/-! ## Inverses -/

theorem determinant_eq (t : Affine K) : t.determinant = t.a * t.e - t.b * t.d := rfl

theorem determinant_mul_translation (t : Affine K) (x y : K) :
    (t * translation x y).determinant = t.determinant := by
  rw [mul_translation, determinant_eq, determinant_eq]

theorem negligible_eq : (negligible : K) = 1 / 2 ^ 104 := by
  have hpower : Scalar.ofNat (powerOfTwo 104) = ((2 : K) ^ 104) := by
    rw [Exact.ofNat_eq, powerOfTwo]
    norm_cast
  unfold negligible
  rw [hpower, Exact.numeral_eq, Nat.cast_one]

theorem negligible_pos [IsStrictOrderedRing K] : (0 : K) < negligible := by
  rw [negligible_eq]
  positivity

theorem inverse?_eq (t : Affine K) :
    t.inverse? =
      if |t.determinant| < negligible then none
      else
        some ⟨t.e * (1 / t.determinant), -t.b * (1 / t.determinant),
          -t.c * (t.e * (1 / t.determinant)) - t.f * (-t.b * (1 / t.determinant)),
          -t.d * (1 / t.determinant), t.a * (1 / t.determinant),
          -t.c * (-t.d * (1 / t.determinant)) - t.f * (t.a * (1 / t.determinant))⟩ := by
  unfold inverse?
  simp only [Exact.abs_eq, Exact.numeral_eq, Nat.cast_one]

theorem inverse?_isSome_iff (t : Affine K) :
    t.inverse?.isSome = true ↔ negligible ≤ |t.determinant| := by
  rw [inverse?_eq]
  split_ifs with hsmall
  · simpa using hsmall
  · simpa using hsmall

variable [IsStrictOrderedRing K]

theorem determinant_ne_zero {t : Affine K} (ht : t.inverse?.isSome = true) :
    t.determinant ≠ 0 := by
  intro hzero
  rw [inverse?_isSome_iff, hzero, abs_zero] at ht
  exact absurd negligible_pos ht.not_gt

theorem exists_inverse {t : Affine K} (hdet : t.determinant ≠ 0) :
    ∃ u, u * t = identity ∧ (negligible ≤ |t.determinant| → t.inverse? = some u) := by
  have hone : (t.a * t.e - t.b * t.d) * (1 / t.determinant) = 1 := mul_one_div_cancel hdet
  rw [inverse?_eq]
  generalize 1 / t.determinant = s at hone
  refine ⟨_, ?_, fun hlarge => if_neg hlarge.not_gt⟩
  rw [mul_eq, identity_eq]
  apply ext
  · linear_combination hone
  · ring
  · ring
  · ring
  · linear_combination hone
  · ring

/-- A map of which the inverse is taken has one, and it undoes the map. -/
theorem inverse_mul_cancel {t : Affine K} (ht : t.inverse?.isSome = true) :
    ∃ u, t.inverse? = some u ∧ ∀ v : Affine K, u * (t * v) = v := by
  obtain ⟨u, hself, hinverse⟩ := exists_inverse (determinant_ne_zero ht)
  refine ⟨u, hinverse ((inverse?_isSome_iff t).1 ht), fun v => ?_⟩
  rw [← mul_assoc, hself, identity_mul]

end Graticule.Affine

/-! ## Finite values -/

namespace Graticule

open scoped Exact

variable {K : Type} [Field K] [LinearOrder K] [FloorRing K]

def Position.finite (p : Position K) : Position (Extended K) := ⟨.finite p.x, .finite p.y⟩

def Affine.finite (t : Affine K) : Affine (Extended K) :=
  ⟨.finite t.a, .finite t.b, .finite t.c, .finite t.d, .finite t.e, .finite t.f⟩

theorem Position.beq_finite (p q : Position K) : (p.finite == q.finite) = (p == q) := by
  cases p
  cases q
  rfl

theorem Position.distanceSquared_finite (p q : Position K) :
    p.finite.distanceSquared q.finite = .finite ((p.x - q.x) ^ 2 + (p.y - q.y) ^ 2) := by
  simp only [Position.distanceSquared, Position.finite, Extended.finite_sub, Extended.finite_mul,
    Extended.finite_add, pow_two]

namespace Affine

theorem mul_finite (t u : Affine K) : t.finite * u.finite = (t * u).finite := rfl

theorem translation_finite (x y : K) :
    translation (.finite x) (.finite y) = (translation x y).finite := rfl

theorem scale_finite (x y : K) : scale (.finite x) (.finite y) = (scale x y).finite := rfl

theorem isAxisAligned_finite (t : Affine K) : t.finite.isAxisAligned = t.isAxisAligned := rfl

theorem determinant_finite (t : Affine K) : t.finite.determinant = .finite t.determinant :=
  Extended.finite_sub _ _

theorem negligible_finite : (negligible : Extended K) = .finite negligible := by
  have hne : (Scalar.ofNat (powerOfTwo 104) : K) ≠ 0 := by
    rw [Exact.ofNat_eq, Nat.cast_ne_zero, powerOfTwo]
    decide
  unfold negligible
  rw [Exact.numeral_eq, Nat.cast_one, ← Extended.finite_div _ hne, Extended.one_eq]
  rfl

theorem inverse?_finite [IsStrictOrderedRing K] (t : Affine K) :
    t.finite.inverse? = t.inverse?.map finite := by
  rw [inverse?_eq]
  simp only [inverse?, determinant_finite, negligible_finite, Extended.abs_finite,
    Extended.finite_lt]
  split_ifs with hsmall
  · rfl
  · have hdet : t.determinant ≠ 0 := by
      intro hzero
      rw [hzero, abs_zero] at hsmall
      exact hsmall negligible_pos
    rw [Extended.one_eq, Extended.finite_div _ hdet]
    simp only [Option.map_some, finite, Extended.finite_neg, Extended.finite_mul,
      Extended.finite_sub]

end Affine

end Graticule
