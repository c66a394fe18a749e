import Graticule.Binary64.Scalar

/-!
# Machine numbers as scalars

A scalar that is not a number differs from itself.  Where every finite scalar equals itself, closing
a path of finite vertices gives a closed path; machine numbers are such scalars.
-/

namespace Graticule

class Scalar.FiniteRefl (α : Type) [Scalar α] : Prop where
  beq_self : ∀ x : α, Scalar.isFinite x = true → (x == x) = true

namespace Binary64

theorem compare_self {v : Float.Model.UnpackedFloat} (hv : v.isFinite = true) :
    v.compare v = some .eq := by
  cases v with
  | infinity s => cases hv
  | notANumber => cases hv
  | zero s => cases s <;> rfl
  | finite s m e h =>
    have horder : (compare e e).then (compare m m) = .eq := by
      have hexponent : compare e e = .eq := Std.ReflCmp.compare_self
      have hmantissa : compare m m = .eq := Std.ReflCmp.compare_self
      rw [hexponent, hmantissa]
      rfl
    cases s with
    | positive => exact congrArg some horder
    | negative => exact congrArg (fun order => some order.swap) horder

instance finiteRefl : Scalar.FiniteRefl Float where
  beq_self x hx := by
    have hself : x.toModel.unpack.compare x.toModel.unpack = some .eq := compare_self hx
    change (x.toModel.unpack.compare x.toModel.unpack == some .eq) = true
    rw [hself]
    rfl

end Binary64

end Graticule
