import Graticule.Proofs.Scalar.Exact

/-!
# Exact scalars with infinities and not a number

`Extended K` has the scalars of an ordered field, an infinity of either sign and one value that is
not a number.  The operations are exact on finite values and follow the rules of machine numbers
elsewhere: what has no value is not a number, a comparison with not a number fails, and the lesser
and the greater of two pass over it.  There is one zero; it counts as positive where its sign
matters.

The lemmas say that the finite values are closed under the operations and that these are those of
the field there.  So a computation on finite values is followed in the field.
-/

namespace Graticule

/-- The scalars of a field, two infinities, and not a number. -/
inductive Extended (K : Type) where
  | finite (x : K)
  | infinite (negative : Bool)
  | nan

namespace Extended

open scoped Exact

variable {K : Type} [Field K] [LinearOrder K] [FloorRing K]

/-! ## Operations -/

/-- The sign of a finite value; that of zero is positive. -/
def isNegative (x : K) : Bool := decide (x < 0)

def add : Extended K → Extended K → Extended K
  | finite x, finite y => finite (x + y)
  | finite _, infinite t => infinite t
  | infinite s, finite _ => infinite s
  | infinite s, infinite t => if s = t then infinite s else nan
  | nan, _ | _, nan => nan

def neg : Extended K → Extended K
  | finite x => finite (-x)
  | infinite s => infinite !s
  | nan => nan

def mul : Extended K → Extended K → Extended K
  | finite x, finite y => finite (x * y)
  | finite x, infinite t => if x = 0 then nan else infinite (isNegative x != t)
  | infinite s, finite y => if y = 0 then nan else infinite (s != isNegative y)
  | infinite s, infinite t => infinite (s != t)
  | nan, _ | _, nan => nan

def div : Extended K → Extended K → Extended K
  | finite x, finite y =>
    if y = 0 then if x = 0 then nan else infinite (isNegative x) else finite (x / y)
  | finite _, infinite _ => finite 0
  | infinite s, finite y => infinite (s != isNegative y)
  | infinite _, infinite _ => nan
  | nan, _ | _, nan => nan

def lt : Extended K → Extended K → Bool
  | finite x, finite y => decide (x < y)
  | finite _, infinite t => !t
  | infinite s, finite _ => s
  | infinite s, infinite t => s && !t
  | nan, _ | _, nan => false

def le : Extended K → Extended K → Bool
  | finite x, finite y => decide (x ≤ y)
  | finite _, infinite t => !t
  | infinite s, finite _ => s
  | infinite s, infinite t => s || !t
  | nan, _ | _, nan => false

def beq : Extended K → Extended K → Bool
  | finite x, finite y => decide (x = y)
  | infinite s, infinite t => s == t
  | _, _ => false

def map (f : K → K) : Extended K → Extended K
  | finite x => finite (f x)
  | x => x

def remainder : Extended K → Extended K → Extended K
  | finite x, finite y => if y = 0 then nan else finite (Scalar.remainder x y)
  | finite x, infinite _ => finite x
  | _, _ => nan

def least : Extended K → Extended K → Extended K
  | nan, y => y
  | x, nan => x
  | x, y => if le x y then x else y

def greatest : Extended K → Extended K → Extended K
  | nan, y => y
  | x, nan => x
  | x, y => if le x y then y else x

instance instScalar : Scalar (Extended K) where
  toAdd := ⟨add⟩
  toSub := ⟨fun x y => add x (neg y)⟩
  toMul := ⟨mul⟩
  toDiv := ⟨div⟩
  toNeg := ⟨neg⟩
  toLT := ⟨fun x y => lt x y = true⟩
  toLE := ⟨fun x y => le x y = true⟩
  toBEq := ⟨beq⟩
  decLt x y := inferInstanceAs (Decidable (lt x y = true))
  decLe x y := inferInstanceAs (Decidable (le x y = true))
  ofNat n := finite n
  ofInt n := finite n
  ofDecimal m small s := finite (Scalar.ofDecimal m small s)
  abs
    | finite x => finite |x|
    | infinite _ => infinite false
    | nan => nan
  sign
    | finite x => finite (Scalar.sign x)
    | infinite s => finite (if s then -1 else 1)
    | nan => nan
  floor := map fun x => ⌊x⌋
  ceil := map fun x => ⌈x⌉
  round := map fun x => Exact.nearest x
  remainder := remainder
  least := least
  greatest := greatest
  isFinite
    | finite _ => true
    | _ => false
  toInt
    | finite x => Exact.truncate x
    | infinite s => if s then -2 ^ 63 else 2 ^ 63 - 1
    | nan => 0
  toNat
    | finite x => (Exact.truncate x).toNat
    | infinite s => if s then 0 else 2 ^ 64 - 1
    | nan => 0

instance instUnbounded : Unbounded (Extended K) where
  toScalar := instScalar
  infinity := infinite false

/-! ## Finite values -/

omit [Field K] [LinearOrder K] [FloorRing K] in
theorem finite_injective : Function.Injective (finite (K := K)) := by
  intro x y h
  exact finite.inj h

theorem numeral_eq (n : ℕ) : (@OfNat.ofNat (Extended K) n (Scalar.instNumeral n)) = finite (n : K) :=
  rfl

theorem zero_eq : (0 : Extended K) = finite 0 := congrArg finite Nat.cast_zero

theorem one_eq : (1 : Extended K) = finite 1 := congrArg finite Nat.cast_one

theorem decimal_eq (m s : ℕ) :
    (@OfScientific.ofScientific (Extended K) Scalar.instDecimal m true s) =
      finite ((m : K) / 10 ^ s) := rfl

theorem finite_add (x y : K) : (finite x + finite y : Extended K) = finite (x + y) := rfl

theorem finite_sub (x y : K) : (finite x - finite y : Extended K) = finite (x - y) := by
  change finite (x + -y) = _
  rw [sub_eq_add_neg]

theorem finite_mul (x y : K) : (finite x * finite y : Extended K) = finite (x * y) := rfl

theorem finite_neg (x : K) : (-finite x : Extended K) = finite (-x) := rfl

theorem finite_div (x : K) {y : K} (hy : y ≠ 0) :
    (finite x / finite y : Extended K) = finite (x / y) := by
  change div (finite x) (finite y) = _
  rw [div, if_neg hy]

theorem finite_lt (x y : K) : (finite x < finite y : Prop) ↔ x < y := decide_eq_true_iff

theorem finite_le (x y : K) : (finite x ≤ finite y : Prop) ↔ x ≤ y := decide_eq_true_iff

theorem finite_beq (x y : K) : (finite x == finite y) = decide (x = y) := rfl

theorem abs_finite (x : K) : Scalar.abs (finite x) = finite |x| := rfl

theorem floor_finite (x : K) : Scalar.floor (finite x) = finite (⌊x⌋ : K) := rfl

theorem ceil_finite (x : K) : Scalar.ceil (finite x) = finite (⌈x⌉ : K) := rfl

theorem isFinite_finite (x : K) : Scalar.isFinite (finite x) = true := rfl

theorem toNat_finite (x : K) : Scalar.toNat (finite x) = (Exact.truncate x).toNat := rfl

theorem least_finite (x y : K) : Scalar.least (finite x) (finite y) = finite (min x y) := by
  change (if le (finite x) (finite y) = true then finite x else finite y) = finite (min x y)
  rw [min_def, apply_ite finite]
  exact if_congr decide_eq_true_iff rfl rfl

theorem greatest_finite (x y : K) : Scalar.greatest (finite x) (finite y) = finite (max x y) := by
  change (if le (finite x) (finite y) = true then finite y else finite x) = finite (max x y)
  rw [max_def, apply_ite finite]
  exact if_congr decide_eq_true_iff rfl rfl

theorem remainder_finite (x : K) {y : K} (hy : y ≠ 0) :
    Scalar.remainder (finite x) (finite y) = finite (Scalar.remainder x y) := by
  change remainder (finite x) (finite y) = _
  rw [remainder, if_neg hy]

/-- What is finite is a value of the field. -/
theorem isFinite_iff (x : Extended K) : Scalar.isFinite x = true ↔ ∃ y, x = finite y := by
  cases x with
  | finite y => exact ⟨fun _ => ⟨y, rfl⟩, fun _ => rfl⟩
  | infinite s => exact ⟨fun h => absurd h Bool.false_ne_true, fun ⟨_, h⟩ => nomatch h⟩
  | nan => exact ⟨fun h => absurd h Bool.false_ne_true, fun ⟨_, h⟩ => nomatch h⟩

/-- What lies between finite values is finite. -/
theorem exists_eq_finite_of_le {x z : K} {y : Extended K} (hx : finite x ≤ y) (hz : y ≤ finite z) :
    ∃ v, y = finite v := by
  cases y with
  | finite v => exact ⟨v, rfl⟩
  | infinite s =>
    cases s with
    | false => exact absurd hz Bool.false_ne_true
    | true => exact absurd hx Bool.false_ne_true
  | nan => exact absurd hx Bool.false_ne_true

/-! ## What a finite result comes from -/

theorem exists_of_add_eq_finite {x : Extended K} {y z : K} (h : x + finite y = finite z) :
    ∃ v, x = finite v := by
  cases x with
  | finite v => exact ⟨v, rfl⟩
  | infinite s => exact nomatch (h : infinite s = finite z)
  | nan => exact nomatch (h : nan = finite z)

theorem exists_of_sub_eq_finite {x : Extended K} {y z : K} (h : x - finite y = finite z) :
    ∃ v, x = finite v :=
  exists_of_add_eq_finite (y := -y) h

theorem exists_of_mul_eq_finite {x : Extended K} {y z : K} (hy : y ≠ 0)
    (h : x * finite y = finite z) : ∃ v, x = finite v := by
  cases x with
  | finite v => exact ⟨v, rfl⟩
  | infinite s =>
    change (if y = 0 then nan else infinite (s != isNegative y)) = finite z at h
    rw [if_neg hy] at h
    cases h
  | nan => exact nomatch (h : nan = finite z)

theorem exists_of_div_eq_finite {x : Extended K} {y z : K} (h : x / finite y = finite z) :
    ∃ v, x = finite v := by
  cases x with
  | finite v => exact ⟨v, rfl⟩
  | infinite s => exact nomatch (h : infinite (s != isNegative y) = finite z)
  | nan => exact nomatch (h : nan = finite z)

omit [Field K] [LinearOrder K] [FloorRing K] in
theorem exists_of_map_eq_finite {f : K → K} {x : Extended K} {z : K} (h : map f x = finite z) :
    ∃ v, x = finite v := by
  cases x with
  | finite v => exact ⟨v, rfl⟩
  | infinite s => exact nomatch h
  | nan => exact nomatch h

theorem eq_finite_of_add_eq_finite {x : Extended K} {y z : K} (h : finite y + x = finite z) :
    x = finite (z - y) := by
  cases x with
  | finite v =>
    have hsum : y + v = z := finite_injective h
    rw [← hsum, add_sub_cancel_left]
  | infinite s => exact nomatch (h : infinite s = finite z)
  | nan => exact nomatch (h : nan = finite z)

/-! ## What is not finite -/

theorem not_isFinite_neg {x : Extended K} (hx : Scalar.isFinite x = false) :
    Scalar.isFinite (-x) = false := by
  cases x with
  | finite v => cases hx
  | infinite s => rfl
  | nan => rfl

theorem not_isFinite_add {x : Extended K} (hx : Scalar.isFinite x = false) (y : Extended K) :
    Scalar.isFinite (x + y) = false := by
  cases x with
  | finite v => cases hx
  | infinite s =>
    cases y with
    | finite w => rfl
    | infinite t =>
      change Scalar.isFinite (if s = t then infinite s else nan : Extended K) = false
      split_ifs <;> rfl
    | nan => rfl
  | nan => cases y <;> rfl

theorem not_isFinite_mul {x : Extended K} (hx : Scalar.isFinite x = false) (y : Extended K) :
    Scalar.isFinite (x * y) = false := by
  cases x with
  | finite v => cases hx
  | infinite s =>
    cases y with
    | finite w =>
      change Scalar.isFinite (if w = 0 then nan else infinite (s != isNegative w)) = false
      split_ifs <;> rfl
    | infinite t => rfl
    | nan => rfl
  | nan => cases y <;> rfl

theorem infinite_mul_finite (negative : Bool) {y : K} (hy : 0 < y) :
    infinite negative * finite y = infinite negative := by
  change (if y = 0 then nan else infinite (negative != decide (y < 0))) = infinite negative
  rw [if_neg hy.ne', decide_eq_false (not_lt.2 hy.le), Bool.bne_false]

/-- Of two values that are not finite there is no ratio. -/
theorem div_eq_nan {x y : Extended K} (hx : Scalar.isFinite x = false)
    (hy : Scalar.isFinite y = false) : x / y = nan := by
  cases x with
  | finite v => cases hx
  | infinite s =>
    cases y with
    | finite w => cases hy
    | infinite t => rfl
    | nan => rfl
  | nan => cases y <;> rfl

theorem zero_div_zero : (finite 0 / finite 0 : Extended K) = nan := by
  change (if (0 : K) = 0 then if (0 : K) = 0 then nan else _ else _) = nan
  rw [if_pos rfl, if_pos rfl]

/-! ## Remainders -/

theorem modulo_finite (x : K) {m : K} (hm : m ≠ 0) :
    Scalar.modulo (finite x) (finite m) = finite (Scalar.modulo x m) := by
  unfold Scalar.modulo
  simp only [remainder_finite x hm, numeral_eq, Exact.numeral_eq, finite_beq, finite_lt,
    finite_add]
  rw [apply_ite finite]
  rfl

end Extended

end Graticule
