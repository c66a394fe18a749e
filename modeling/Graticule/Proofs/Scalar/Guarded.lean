import Graticule.Proofs.Scalar.Real

/-!
# Scalars that record a division by zero

A guarded scalar is a value or a fault.  Dividing by zero is a fault, and so is what is computed from
a fault; anything else is computed as on the values.  So a value is the result of a computation that
divided by zero nowhere on its way.  A comparison with a fault fails.

The second part computes on the reals among the values: `Guarded.real`.
-/

namespace Graticule

/-- A scalar, or the fault of a division by zero. -/
inductive Guarded (α : Type) where
  | value (x : α)
  | fault

namespace Guarded

variable {α : Type}

def map (f : α → α) : Guarded α → Guarded α
  | value x => value (f x)
  | fault => fault

def map₂ (f : α → α → α) : Guarded α → Guarded α → Guarded α
  | value x, value y => value (f x y)
  | _, _ => fault

/-- A function of two values, the second of which must not be zero. -/
def mapNonzero [Scalar α] (f : α → α → α) : Guarded α → Guarded α → Guarded α
  | value x, value y => if y == 0 then fault else value (f x y)
  | _, _ => fault

def test (r : α → α → Bool) : Guarded α → Guarded α → Bool
  | value x, value y => r x y
  | _, _ => false

instance instScalar [Scalar α] : Scalar (Guarded α) where
  toAdd := ⟨map₂ (· + ·)⟩
  toSub := ⟨map₂ (· - ·)⟩
  toMul := ⟨map₂ (· * ·)⟩
  toDiv := ⟨mapNonzero (· / ·)⟩
  toNeg := ⟨map (- ·)⟩
  toLT := ⟨fun x y => test (fun x y => decide (x < y)) x y = true⟩
  toLE := ⟨fun x y => test (fun x y => decide (x ≤ y)) x y = true⟩
  toBEq := ⟨test (· == ·)⟩
  decLt x y := inferInstanceAs (Decidable (test (fun x y => decide (x < y)) x y = true))
  decLe x y := inferInstanceAs (Decidable (test (fun x y => decide (x ≤ y)) x y = true))
  ofNat n := value (Scalar.ofNat n)
  ofInt n := value (Scalar.ofInt n)
  ofDecimal m small s := value (Scalar.ofDecimal m small s)
  abs := map Scalar.abs
  sign := map Scalar.sign
  floor := map Scalar.floor
  ceil := map Scalar.ceil
  round := map Scalar.round
  remainder := mapNonzero Scalar.remainder
  least := map₂ Scalar.least
  greatest := map₂ Scalar.greatest
  isFinite
    | value x => Scalar.isFinite x
    | fault => false
  toInt
    | value x => Scalar.toInt x
    | fault => 0
  toNat
    | value x => Scalar.toNat x
    | fault => 0

instance instElementary [Elementary α] : Elementary (Guarded α) where
  pi := value Elementary.pi
  sin := map Elementary.sin
  cos := map Elementary.cos
  tan := map Elementary.tan
  atan := map Elementary.atan
  atan2 := map₂ Elementary.atan2
  exp := map Elementary.exp
  log := map Elementary.log
  sqrt := map Elementary.sqrt
  hypot := map₂ Elementary.hypot
  pow := map₂ Elementary.pow

/-! ## Faults -/

section

variable [Scalar α] (x : Guarded α)

theorem fault_mul : (fault : Guarded α) * x = fault := rfl

theorem add_fault : x + fault = fault := by cases x <;> rfl

theorem value_lt (x y : α) : (value x < value y : Prop) ↔ x < y := decide_eq_true_iff

end

/-! ## Real numbers -/

open Extended (finite)

def real (x : ℝ) : Guarded (Extended ℝ) := value (finite x)

def IsReal (x : Guarded (Extended ℝ)) : Prop := ∃ r, x = real r

theorem isReal_real (x : ℝ) : IsReal (real x) := ⟨x, rfl⟩

theorem real_injective : Function.Injective real := by
  intro x y h
  exact Extended.finite_injective (value.inj h)

theorem zero_eq : (0 : Guarded (Extended ℝ)) = real 0 := congrArg value Extended.zero_eq

theorem one_eq : (1 : Guarded (Extended ℝ)) = real 1 := congrArg value Extended.one_eq

theorem ofNat_eq (n : ℕ) [n.AtLeastTwo] :
    @OfNat.ofNat (Guarded (Extended ℝ)) n (Scalar.instNumeral n) =
      real (@OfNat.ofNat ℝ n instOfNatAtLeastTwo) := rfl

theorem decimal_eq (m s : ℕ) :
    @OfScientific.ofScientific (Guarded (Extended ℝ)) Scalar.instDecimal m true s =
      real ((m : ℝ) / 10 ^ s) := rfl

theorem real_add (x y : ℝ) : real x + real y = real (x + y) := rfl

theorem real_sub (x y : ℝ) : real x - real y = real (x - y) :=
  congrArg value (Extended.finite_sub x y)

theorem real_mul (x y : ℝ) : real x * real y = real (x * y) := rfl

theorem real_neg (x : ℝ) : -real x = real (-x) := rfl

theorem real_lt (x y : ℝ) : (real x < real y : Prop) ↔ x < y :=
  (value_lt _ _).trans (Extended.finite_lt x y)

theorem real_beq (x y : ℝ) : (real x == real y) = decide (x = y) := rfl

theorem value_div_real (x : Extended ℝ) {y : ℝ} (hy : y ≠ 0) :
    value x / real y = value (x / finite y) := by
  have hzero : (finite y == (0 : Extended ℝ)) = false := by
    rw [Extended.zero_eq, Extended.finite_beq, decide_eq_false hy]
  exact if_neg (by rw [hzero]; exact Bool.false_ne_true)

theorem real_div (x : ℝ) {y : ℝ} (hy : y ≠ 0) : real x / real y = real (x / y) :=
  (value_div_real (finite x) hy).trans (congrArg value (Extended.finite_div x hy))

theorem div_zero (x : Guarded (Extended ℝ)) : x / real 0 = fault := by
  cases x with
  | value x =>
    have hzero : (finite 0 == (0 : Extended ℝ)) = true := by
      rw [Extended.zero_eq, Extended.finite_beq, decide_eq_true rfl]
    exact if_pos hzero
  | fault => rfl

theorem div_fault (x : Guarded (Extended ℝ)) : x / fault = fault := by cases x <;> rfl

theorem value_div_nan (x : Extended ℝ) : value x / value .nan = value .nan := by
  cases x <;> rfl

theorem div_nan_ne_real (x : Guarded (Extended ℝ)) (r : ℝ) : x / value .nan ≠ real r := by
  cases x with
  | value x =>
    rw [value_div_nan]
    exact nofun
  | fault => exact nofun

theorem zero_div_cases (y : Guarded (Extended ℝ)) :
    real 0 / y = fault ∨ real 0 / y = real 0 ∨ real 0 / y = value .nan := by
  cases y with
  | fault => exact .inl rfl
  | value y =>
    cases y with
    | finite y =>
      by_cases hy : y = 0
      · rw [hy]
        exact .inl (div_zero _)
      · refine .inr (.inl ((real_div 0 hy).trans ?_))
        rw [zero_div]
    | infinite s => exact .inr (.inl rfl)
    | nan => exact .inr (.inr rfl)

theorem eq_zero_of_zero_div {y : Guarded (Extended ℝ)} {r : ℝ} (h : real 0 / y = real r) :
    r = 0 := by
  rcases zero_div_cases y with hy | hy | hy
  · exact nomatch hy.symm.trans h
  · exact (real_injective (hy.symm.trans h)).symm
  · exact nomatch hy.symm.trans h

theorem infinite_div_cases (s : Bool) (y : Guarded (Extended ℝ)) :
    value (.infinite s) / y = fault ∨ (∃ t, value (.infinite s) / y = value (.infinite t)) ∨
      value (.infinite s) / y = value .nan := by
  cases y with
  | fault => exact .inl rfl
  | value y =>
    cases y with
    | finite y =>
      by_cases hy : y = 0
      · rw [hy]
        exact .inl (div_zero _)
      · exact .inr (.inl ⟨_, value_div_real _ hy⟩)
    | infinite t => exact .inr (.inr rfl)
    | nan => exact .inr (.inr rfl)

/-- What is divided by an infinity is zero, if it is a real number. -/
theorem eq_zero_of_div_infinite {x : Guarded (Extended ℝ)} {s : Bool} {r : ℝ}
    (h : x / value (.infinite s) = real r) : r = 0 := by
  cases x with
  | fault => exact nomatch h
  | value x =>
    cases x with
    | finite x => exact (real_injective h).symm
    | infinite t => exact nomatch h
    | nan => exact nomatch h

/-- Nothing is divided by a quotient of zero. -/
theorem div_zero_div_ne_real (x y : Guarded (Extended ℝ)) (r : ℝ) : x / (real 0 / y) ≠ real r := by
  rcases zero_div_cases y with h | h | h
  · rw [h, div_fault]
    exact nofun
  · rw [h, div_zero]
    exact nofun
  · rw [h]
    exact div_nan_ne_real x r

theorem eq_zero_of_div_infinite_div {x y : Guarded (Extended ℝ)} {s : Bool} {r : ℝ}
    (h : x / (value (.infinite s) / y) = real r) : r = 0 := by
  rcases infinite_div_cases s y with hy | ⟨t, hy⟩ | hy
  · rw [hy, div_fault] at h
    exact nomatch h
  · rw [hy] at h
    exact eq_zero_of_div_infinite h
  · rw [hy] at h
    exact absurd h (div_nan_ne_real x r)

theorem abs_real (x : ℝ) : Scalar.abs (real x) = real |x| := rfl

theorem pi_eq : (Elementary.pi : Guarded (Extended ℝ)) = real Real.pi := rfl

theorem sin_real (x : ℝ) : Elementary.sin (real x) = real (Real.sin x) := rfl

theorem cos_real (x : ℝ) : Elementary.cos (real x) = real (Real.cos x) := rfl

theorem tan_real {x : ℝ} (hx : Real.cos x ≠ 0) : Elementary.tan (real x) = real (Real.tan x) :=
  congrArg value (Extended.tan_finite hx)

theorem tan_of_cos_eq_zero {x : ℝ} (hx : Real.cos x = 0) :
    Elementary.tan (real x) = value (.infinite (Extended.isNegative x)) :=
  congrArg value (if_pos hx)

theorem atan_real (x : ℝ) : Elementary.atan (real x) = real (Real.arctan x) := rfl

theorem atan2_real (y x : ℝ) : Elementary.atan2 (real y) (real x) = real (Complex.arg ⟨x, y⟩) := rfl

theorem log_real {x : ℝ} (hx : 0 < x) : Elementary.log (real x) = real (Real.log x) :=
  congrArg value (Extended.log_finite hx)

theorem sqrt_real {x : ℝ} (hx : 0 ≤ x) : Elementary.sqrt (real x) = real √x :=
  congrArg value (Extended.sqrt_finite hx)

theorem hypot_real (x y : ℝ) : Elementary.hypot (real x) (real y) = real √(x ^ 2 + y ^ 2) := rfl

theorem pow_real {x : ℝ} (hx : 0 < x) (y : ℝ) : Elementary.pow (real x) (real y) = real (x ^ y) :=
  congrArg value (Extended.pow_finite hx y)

theorem pow_real_of_nonneg {x y : ℝ} (hx : 0 ≤ x) (hy : 0 ≤ y) :
    Elementary.pow (real x) (real y) = real (x ^ y) := by
  rcases hx.lt_or_eq with hpos | rfl
  · exact pow_real hpos y
  · refine congrArg value (?_ : Extended.realPower 0 y = .finite (0 ^ y))
    unfold Extended.realPower
    rw [if_neg (lt_irrefl 0), if_pos rfl]
    split_ifs with hzero hneg
    · rw [hzero, Real.rpow_zero]
    · exact absurd hneg hy.not_gt
    · rw [Real.zero_rpow hzero]

end Guarded

end Graticule
