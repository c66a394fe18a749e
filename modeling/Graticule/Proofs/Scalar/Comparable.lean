import Graticule.Proofs.Scalar.Extended
import Graticule.Proofs.Scalar.Machine
import Mathlib

/-!
# Equal scalars

The test for equal scalars is symmetric and transitive, though it fails for what is not a number.
Scalars that pass it are the same but for the sign of zero.
-/

namespace Graticule

/-- Scalars whose test for equality tells them apart, but for the sign of zero. -/
class Scalar.Comparable (α : Type) [Scalar α] : Prop extends PartialEquivBEq α where
  eq_of_beq : ∀ x y : α, (x == y) = true → Scalar.sign x = Scalar.sign y → x = y

/-- Scalars with one zero. -/
class Scalar.OneZero (α : Type) [Scalar α] : Prop where
  eq_of_beq : ∀ x y : α, (x == y) = true → x = y

/-- The same scalar, up to the sign of zero. -/
def Scalar.Agree {α : Type} [Scalar α] (x y : α) : Prop := x = y ∨ (x == y) = true

namespace Binary64

theorem eq_of_beq {x y : Float} (h : (x == y) = true) :
    x = y ∨ (x = 0 ∧ y = -0) ∨ (x = -0 ∧ y = 0) := (Float.beq_iff_ne_nan_and_eq.1 h).2.2

instance comparable : Scalar.Comparable Float where
  symm := PartialEquivBEq.symm
  trans := PartialEquivBEq.trans
  eq_of_beq x y h hsign := by
    obtain heq | ⟨rfl, rfl⟩ | ⟨rfl, rfl⟩ := eq_of_beq h
    · exact heq
    · exact absurd hsign (by decide +kernel)
    · exact absurd hsign (by decide +kernel)

/-- A function that takes both zeros to one value takes equal numbers to one value. -/
theorem apply_eq_of_beq {β : Type} {f : Float → β} (hzero : f 0 = f (-0)) {x y : Float}
    (h : (x == y) = true) : f x = f y := by
  obtain rfl | ⟨rfl, rfl⟩ | ⟨rfl, rfl⟩ := eq_of_beq h
  · rfl
  · exact hzero
  · exact hzero.symm

theorem mul_toModel (x y : Float) :
    x * y = .ofModel (.pack (.mul .binary64 x.toModel.unpack y.toModel.unpack)) := rfl

/-- A zero of either sign times the same number is a zero, or no number, for both. -/
theorem agree_zero_mul (x : Float) : Scalar.Agree (0 * x) (-0 * x) := by
  have hpositive : (0 : Float).toModel.unpack = .zero .positive := rfl
  have hnegative : (-0 : Float).toModel.unpack = .zero .negative := rfl
  rw [mul_toModel, mul_toModel (-0), hpositive, hnegative]
  cases x.toModel.unpack with
  | infinity s => exact .inl rfl
  | notANumber => exact .inl rfl
  | zero s => cases s <;> exact .inr (by decide +kernel)
  | finite s m e h =>
    have hproduct (t : Float.Model.UnpackedFloat.Sign) :
        Float.Model.UnpackedFloat.mul .binary64 (.zero t) (.finite s m e h) = .zero (t * s) := rfl
    rw [hproduct, hproduct]
    cases s <;> exact .inr (by decide +kernel)

theorem agree_mul {x y : Float} (h : (x == y) = true) (z : Float) :
    Scalar.Agree (x * z) (y * z) := by
  obtain rfl | ⟨rfl, rfl⟩ | ⟨rfl, rfl⟩ := eq_of_beq h
  · exact .inl rfl
  · exact agree_zero_mul z
  · exact (agree_zero_mul z).imp Eq.symm PartialEquivBEq.symm

end Binary64

namespace Extended

variable {K : Type} [Field K] [LinearOrder K] [IsStrictOrderedRing K] [FloorRing K]

omit [IsStrictOrderedRing K] in
theorem eq_of_beq {x y : Extended K} (h : (x == y) = true) : x = y := by
  cases x with
  | finite v =>
    cases y with
    | finite w => rw [of_decide_eq_true h]
    | infinite t => exact absurd h Bool.false_ne_true
    | nan => exact absurd h Bool.false_ne_true
  | infinite s =>
    cases y with
    | finite w => exact absurd h Bool.false_ne_true
    | infinite t => exact congrArg infinite (beq_iff_eq.1 h)
    | nan => exact absurd h Bool.false_ne_true
  | nan => exact absurd h Bool.false_ne_true

instance oneZero : Scalar.OneZero (Extended K) where
  eq_of_beq _ _ := eq_of_beq

instance comparable : Scalar.Comparable (Extended K) where
  symm {x y} h := by
    obtain rfl := eq_of_beq h
    exact h
  trans {x y z} h h' := by
    obtain rfl := eq_of_beq h
    exact h'
  eq_of_beq _ _ h _ := eq_of_beq h

end Extended

end Graticule
