import Graticule.Tolerance
import Mathlib.Algebra.Order.Floor.Ring
import Mathlib.Algebra.Order.Field.Basic
import Mathlib.Tactic.FieldSimp
import Mathlib.Tactic.Linarith
import Mathlib.Tactic.Positivity
import Mathlib.Tactic.Ring

/-!
# Exact scalars

Every ordered field with a floor is a type of scalars: sums, products and quotients are those of
the field, nothing is rounded and every scalar is finite.  The instance is scoped, so it is there
only under `open scoped Graticule.Exact`.

The lemmas of the first part say what each operation of the class is in the field.  The second part
treats rounding to whole numbers, and the third the comparisons within a tolerance and the
remainder.
-/

namespace Graticule.Exact

variable {K : Type} [Field K] [LinearOrder K] [FloorRing K]

def truncate (x : K) : ℤ := if x < 0 then ⌈x⌉ else ⌊x⌋

def nearest (x : K) : ℤ := if x < 0 then -⌊-x + 1 / 2⌋ else ⌊x + 1 / 2⌋

scoped instance instScalar : Scalar K where
  toAdd := inferInstance
  toSub := inferInstance
  toMul := inferInstance
  toDiv := inferInstance
  toNeg := inferInstance
  toLT := inferInstance
  toLE := inferInstance
  toBEq := instBEqOfDecidableEq
  decLt := inferInstance
  decLe := inferInstance
  ofNat n := n
  ofInt n := n
  ofDecimal m small s := if small then m / 10 ^ s else m * 10 ^ s
  abs x := |x|
  sign x := if x < 0 then -1 else 1
  floor x := ⌊x⌋
  ceil x := ⌈x⌉
  round x := nearest x
  remainder x y := x - y * truncate (x / y)
  least x y := min x y
  greatest x y := max x y
  isFinite _ := true
  toInt := truncate
  toNat x := (truncate x).toNat

theorem numeral_eq (n : ℕ) : @OfNat.ofNat K n (Scalar.instNumeral n) = (n : K) := rfl

theorem decimal_eq (m s : ℕ) :
    @OfScientific.ofScientific K Scalar.instDecimal m true s = (m : K) / 10 ^ s := rfl

@[simp] theorem ofNat_eq (n : ℕ) : (Scalar.ofNat n : K) = n := rfl

@[simp] theorem ofInt_eq (n : ℤ) : (Scalar.ofInt n : K) = n := rfl

@[simp] theorem abs_eq (x : K) : Scalar.abs x = |x| := rfl

@[simp] theorem floor_eq (x : K) : Scalar.floor x = ⌊x⌋ := rfl

@[simp] theorem ceil_eq (x : K) : Scalar.ceil x = ⌈x⌉ := rfl

@[simp] theorem round_eq (x : K) : Scalar.round x = nearest x := rfl

@[simp] theorem remainder_eq (x y : K) : Scalar.remainder x y = x - y * truncate (x / y) := rfl

@[simp] theorem least_eq (x y : K) : Scalar.least x y = min x y := rfl

@[simp] theorem greatest_eq (x y : K) : Scalar.greatest x y = max x y := rfl

@[simp] theorem isFinite_eq (x : K) : Scalar.isFinite x = true := rfl

@[simp] theorem toInt_eq (x : K) : Scalar.toInt x = truncate x := rfl

@[simp] theorem toNat_eq (x : K) : Scalar.toNat x = (truncate x).toNat := rfl

/-! ## Rounding to whole numbers -/

variable [IsStrictOrderedRing K]

@[simp] theorem truncate_intCast (n : ℤ) : truncate (n : K) = n := by
  unfold truncate
  split_ifs <;> simp

theorem nearest_eq {x : K} {n : ℤ} (h : |x - n| < 1 / 2) : nearest x = n := by
  obtain ⟨hlower, hupper⟩ := abs_lt.1 h
  unfold nearest
  split_ifs
  · rw [neg_eq_iff_eq_neg, Int.floor_eq_iff]
    push_cast
    constructor <;> linarith
  · rw [Int.floor_eq_iff]
    constructor <;> linarith

@[simp] theorem nearest_intCast (n : ℤ) : nearest (n : K) = n :=
  nearest_eq (by rw [sub_self, abs_zero]; norm_num)

/-! ## Comparison within a tolerance, and the remainder -/

theorem isClose_self (x : K) : Scalar.isClose x x = true := by
  unfold Scalar.isClose
  rw [decide_eq_true_iff, decimal_eq, decimal_eq]
  change |x - x| ≤ _ + _ * |x|
  rw [sub_self, abs_zero]
  positivity

theorem isNearlyWhole_intCast (n : ℤ) {tolerance : K} (ht : 0 < tolerance) :
    Scalar.isNearlyWhole (n : K) tolerance = true := by
  unfold Scalar.isNearlyWhole
  rw [decide_eq_true_iff, round_eq, nearest_intCast]
  change |(n : K) - n| < tolerance
  rwa [sub_self, abs_zero]

/-- For a positive divisor the remainder toward zero is moved up by `m` when it is negative. -/
theorem modulo_of_pos {m : K} (x : K) (hm : 0 < m) :
    Scalar.modulo x m =
      if x - m * truncate (x / m) < 0 then x - m * truncate (x / m) + m
      else x - m * truncate (x / m) := by
  unfold Scalar.modulo
  simp only [remainder_eq, numeral_eq, Nat.cast_zero]
  by_cases hneg : x - m * truncate (x / m) < 0
  · have hne : x - m * truncate (x / m) ≠ 0 := hneg.ne
    simp [hneg, hne, hm.le]
  · simp [hneg, hm.le]

/-- For a positive divisor the remainder is what is left above the floor of the quotient. -/
theorem modulo_eq {m : K} (x : K) (hm : 0 < m) : Scalar.modulo x m = x - m * ⌊x / m⌋ := by
  have hx : x = m * (x / m) := (mul_div_cancel₀ x hm.ne').symm
  generalize x / m = q at hx ⊢
  subst hx
  have hfactor (n : ℤ) : m * q - m * (n : K) = m * (q - n) := by ring
  rw [modulo_of_pos _ hm, mul_div_cancel_left₀ q hm.ne', hfactor]
  unfold truncate
  by_cases hneg : q < 0
  · rw [if_pos hneg]
    split_ifs with hlt
    · have hceil : q < ⌈q⌉ := by
        have := (pos_iff_neg_of_mul_neg hlt).1 hm
        linarith
      have hfloor : ⌊q⌋ = ⌈q⌉ - 1 := by
        rw [Int.floor_eq_iff]
        have := Int.ceil_lt_add_one q
        constructor <;> push_cast <;> linarith
      rw [hfloor]
      push_cast
      ring
    · have hle : (⌈q⌉ : K) ≤ q := by
        by_contra hgt
        exact hlt (mul_neg_of_pos_of_neg hm (by linarith))
      have hfloor : ⌊q⌋ = ⌈q⌉ := le_antisymm (Int.floor_le_ceil q) (Int.le_floor.2 hle)
      rw [hfloor, hfactor]
  · rw [if_neg hneg, if_neg]
    · rw [hfactor]
    · have := mul_nonneg hm.le (sub_nonneg.2 (Int.floor_le q))
      exact not_lt.2 this

theorem modulo_nonneg {m : K} (x : K) (hm : 0 < m) : 0 ≤ Scalar.modulo x m := by
  have hfloor : m * ⌊x / m⌋ ≤ x := by
    have := mul_le_mul_of_nonneg_left (Int.floor_le (x / m)) hm.le
    rwa [mul_div_cancel₀ x hm.ne'] at this
  rw [modulo_eq x hm]
  linarith

theorem modulo_lt {m : K} (x : K) (hm : 0 < m) : Scalar.modulo x m < m := by
  have hfloor : x < m * (⌊x / m⌋ + 1) := by
    have := mul_lt_mul_of_pos_left (Int.lt_floor_add_one (x / m)) hm
    rwa [mul_div_cancel₀ x hm.ne'] at this
  rw [modulo_eq x hm]
  linarith

theorem modulo_add_intCast_mul {m : K} (x : K) (n : ℤ) (hm : 0 < m) :
    Scalar.modulo (x + n * m) m = Scalar.modulo x m := by
  rw [modulo_eq _ hm, modulo_eq _ hm, add_div, mul_div_cancel_right₀ _ hm.ne',
    Int.floor_add_intCast]
  push_cast
  ring

end Graticule.Exact
