import Graticule.Error
import Graticule.Proofs.Affine
import Mathlib.Algebra.Group.Basic
import Mathlib.Data.Rat.Floor

/-!
# Composition of affine maps

Affine maps compose as the functions do that they stand for, so they form a monoid, and the
determinant is multiplicative.  From this everything about inverses follows: a map that undoes
another one on one side does so on both (`mul_eq_identity_comm`), so the inverse that is found is
the only one.  `Affine.composes_as_functions` puts the laws together.
-/

namespace Graticule.Affine

open scoped Exact

variable {K : Type} [Field K] [LinearOrder K] [FloorRing K]

instance instMonoid : Monoid (Affine K) where
  mul_assoc := mul_assoc
  one := identity
  one_mul := identity_mul
  mul_one := mul_identity

theorem apply_identity (p : Position K) : (identity : Affine K).apply p = p := by
  rw [identity_eq]
  simp [apply]

theorem determinant_identity : (identity : Affine K).determinant = 1 := by
  rw [identity_eq, determinant_eq]
  ring

theorem determinant_mul (t u : Affine K) :
    (t * u).determinant = t.determinant * u.determinant := by
  rw [mul_eq]
  simp only [determinant_eq]
  ring

theorem isAxisAligned_mul {t u : Affine K} (ht : t.isAxisAligned = true)
    (hu : u.isAxisAligned = true) : (t * u).isAxisAligned = true := by
  obtain ⟨htb, htd⟩ := (isAxisAligned_iff t).1 ht
  obtain ⟨hub, hud⟩ := (isAxisAligned_iff u).1 hu
  rw [isAxisAligned_iff, mul_eq]
  simp [htb, htd, hub, hud]

/-! ## Inverses on either side -/

/-- What undoes a map from the left has a determinant, so something undoes it from the left in
turn, and that can only be the map. -/
theorem mul_eq_identity_comm [IsStrictOrderedRing K] {t u : Affine K} (h : u * t = identity) :
    t * u = identity := by
  have hdet : u.determinant * t.determinant = 1 := by
    rw [← determinant_mul, h, determinant_identity]
  obtain ⟨v, hv, -⟩ := exists_inverse (left_ne_zero_of_mul_eq_one hdet)
  have hself : v = t := left_inv_eq_right_inv hv h
  rwa [hself] at hv

theorem eq_of_mul_eq_identity [IsStrictOrderedRing K] {t u v : Affine K}
    (hu : u * t = identity) (hv : v * t = identity) : u = v :=
  left_inv_eq_right_inv hu (mul_eq_identity_comm hv)

/-! ## The inverse that is found -/

theorem inverse_eq_ok_iff {t u : Affine K} : t.inverse = .ok u ↔ t.inverse? = some u := by
  unfold inverse
  cases t.inverse? with
  | none => simp
  | some v => simp

theorem negligible_eq_square : (negligible : K) = (1 / 2 ^ 52) ^ 2 := by
  rw [negligible_eq]
  norm_num

theorem inverse_eq_error_iff (t : Affine K) :
    t.inverse = .error (.singular t) ↔ |t.determinant| < (1 / 2 ^ 52) ^ 2 := by
  rw [← negligible_eq_square, ← not_le, ← inverse?_isSome_iff]
  unfold inverse
  cases t.inverse? with
  | none => simp
  | some u => simp

theorem inverse_mul_eq_identity [IsStrictOrderedRing K] {t u : Affine K} (h : t.inverse = .ok u) :
    u * t = identity := by
  rw [inverse_eq_ok_iff] at h
  have hsome : t.inverse?.isSome = true := by rw [h]; rfl
  obtain ⟨v, hv, hinverse⟩ := exists_inverse (determinant_ne_zero hsome)
  rw [hinverse ((inverse?_isSome_iff t).1 hsome), Option.some.injEq] at h
  rwa [← h]

theorem isAxisAligned_inverse {t u : Affine K} (ht : t.isAxisAligned = true)
    (h : t.inverse = .ok u) : u.isAxisAligned = true := by
  obtain ⟨hb, hd⟩ := (isAxisAligned_iff t).1 ht
  rw [inverse_eq_ok_iff, inverse?_eq] at h
  split_ifs at h
  cases h
  rw [isAxisAligned_iff]
  simp [hb, hd]

variable [IsStrictOrderedRing K]

/-- A map whose determinant is not negligible has its inverse found, which undoes it on both sides
and leads back to it. -/
theorem exists_inverse_eq_ok {t : Affine K} (ht : (1 / 2 ^ 52) ^ 2 ≤ |t.determinant|) :
    ∃ u, t.inverse = .ok u ∧ u * t = identity ∧ t * u = identity ∧
      ∀ v, u.inverse = .ok v → v = t := by
  rw [← negligible_eq_square, ← inverse?_isSome_iff, Option.isSome_iff_exists] at ht
  obtain ⟨u, hu⟩ := ht
  have hleft := inverse_mul_eq_identity (inverse_eq_ok_iff.2 hu)
  have hright := mul_eq_identity_comm hleft
  refine ⟨u, inverse_eq_ok_iff.2 hu, hleft, hright, fun v hv => ?_⟩
  exact eq_of_mul_eq_identity (inverse_mul_eq_identity hv) hright

theorem inverse_mul_eq {t u t' u' v : Affine K} (ht : t.inverse = .ok t') (hu : u.inverse = .ok u')
    (hv : (t * u).inverse = .ok v) : v = u' * t' := by
  apply eq_of_mul_eq_identity (inverse_mul_eq_identity hv)
  calc u' * t' * (t * u) = u' * (t' * t) * u := by simp only [mul_assoc]
    _ = u' * u := by rw [inverse_mul_eq_identity ht, mul_identity]
    _ = identity := inverse_mul_eq_identity hu

/-- Affine maps are composed as functions are, with the identity for a unit, and determinants are
multiplied.  An inverse is refused for a negligible determinant alone; else it undoes the map on both
sides, its own inverse is the map, and inverses of products are products of inverses in the other
order.  Products and inverses of maps that neither turn nor shear do not either. -/
theorem composes_as_functions :
    (∀ (t u : Affine K) (p : Position K), (t * u).apply p = t.apply (u.apply p)) ∧
    (∀ t u v : Affine K, t * u * v = t * (u * v)) ∧
    (∀ t : Affine K, identity * t = t ∧ t * identity = t) ∧
    (∀ p : Position K, (identity : Affine K).apply p = p) ∧
    (∀ t u : Affine K, (t * u).determinant = t.determinant * u.determinant) ∧
    (∀ t : Affine K, t.inverse = .error (.singular t) ↔ |t.determinant| < (1 / 2 ^ 52) ^ 2) ∧
    (∀ t : Affine K, (1 / 2 ^ 52) ^ 2 ≤ |t.determinant| →
      ∃ u, t.inverse = .ok u ∧ u * t = identity ∧ t * u = identity ∧
        ∀ v, u.inverse = .ok v → v = t) ∧
    (∀ t u t' u' v : Affine K, t.inverse = .ok t' → u.inverse = .ok u' →
      (t * u).inverse = .ok v → v = u' * t') ∧
    (∀ t u : Affine K, t.isAxisAligned = true → u.isAxisAligned = true →
      (t * u).isAxisAligned = true) ∧
    ∀ t u : Affine K, t.isAxisAligned = true → t.inverse = .ok u → u.isAxisAligned = true :=
  ⟨apply_mul, mul_assoc, fun t => ⟨identity_mul t, mul_identity t⟩, apply_identity,
    determinant_mul, inverse_eq_error_iff, fun _ => exists_inverse_eq_ok,
    fun _ _ _ _ _ => inverse_mul_eq, fun _ _ => isAxisAligned_mul,
    fun _ _ => isAxisAligned_inverse⟩

/-- A quarter turn that doubles lengths, and a shear: both are undone, in the other order when they
are composed, and the inverse of the turn leads back to it. -/
theorem composes_as_functions_turned :
    let turn : Affine ℚ := ⟨0, -2, 5, 2, 0, -3⟩
    let shear : Affine ℚ := ⟨1, 3, 0, 0, 1, 7⟩
    (1 / 2 ^ 52) ^ 2 ≤ |turn.determinant| ∧
      ∃ turnBack shearBack back, turn.inverse = .ok turnBack ∧ shear.inverse = .ok shearBack ∧
        (turn * shear).inverse = .ok back ∧ back = shearBack * turnBack ∧
        turn * turnBack = identity ∧ turnBack.inverse = .ok turn := by
  intro turn shear
  obtain ⟨-, -, -, -, hdet, -, hinverse, hproduct, -, -⟩ := composes_as_functions (K := ℚ)
  have hturn : turn.determinant = 4 := by norm_num [turn, determinant_eq]
  have hshear : shear.determinant = 1 := by norm_num [shear, determinant_eq]
  have hlarge : (1 / 2 ^ 52) ^ 2 ≤ |turn.determinant| := by
    rw [hturn]
    norm_num
  obtain ⟨turnBack, hturnBack, hleft, hright, hreturn⟩ := hinverse turn hlarge
  obtain ⟨shearBack, hshearBack, -⟩ := hinverse shear (by rw [hshear]; norm_num)
  obtain ⟨back, hback, -⟩ := hinverse (turn * shear) (by rw [hdet, hturn, hshear]; norm_num)
  have hquarter : turnBack.determinant = 1 / 4 := by
    have hone := hdet turnBack turn
    rw [hleft, determinant_identity, hturn] at hone
    linarith
  obtain ⟨again, hagain, -⟩ := hinverse turnBack (by rw [hquarter]; norm_num [abs_of_pos])
  refine ⟨hlarge, turnBack, shearBack, back, hturnBack, hshearBack, hback, ?_, hright, ?_⟩
  · exact hproduct turn shear turnBack shearBack back hturnBack hshearBack hback
  · rw [hagain, hreturn again hagain]

end Graticule.Affine
