import Graticule.Proofs.Scalar.Extended
import Mathlib.Analysis.SpecialFunctions.Complex.Arg
import Mathlib.Analysis.SpecialFunctions.Pow.Real
import Mathlib.Analysis.SpecialFunctions.Trigonometric.Arctan

/-!
# Elementary functions on the reals, and with infinities and not a number

The reals are exact scalars with elementary functions.  Outside its domain a function has the
library's value there, which is no concern where it is not left, as with lengths.

With infinities and not a number each function has its value on the real numbers where it has one.
At the ends of the line it takes its limit, and where a tangent has none it takes the one from the
side of zero.  Elsewhere outside its domain it is not a number, and not a number goes to itself; the
exceptions (a power to zero or of one, a side that is infinite) are those of machine numbers.
-/

namespace Graticule.Exact

noncomputable scoped instance instElementary : Elementary ℝ where
  pi := Real.pi
  sin := Real.sin
  cos := Real.cos
  tan := Real.tan
  atan := Real.arctan
  atan2 y x := Complex.arg ⟨x, y⟩
  exp := Real.exp
  log := Real.log
  sqrt := Real.sqrt
  hypot x y := √(x ^ 2 + y ^ 2)
  pow x y := x ^ y

end Graticule.Exact

namespace Graticule.Extended

open scoped Exact

noncomputable section

/-- A function that has a limit at neither end of the line. -/
def periodic (f : ℝ → ℝ) : Extended ℝ → Extended ℝ
  | finite x => finite (f x)
  | _ => nan

def tan : Extended ℝ → Extended ℝ
  | finite x => if Real.cos x = 0 then infinite (isNegative x) else finite (Real.tan x)
  | _ => nan

def atan : Extended ℝ → Extended ℝ
  | finite x => finite (Real.arctan x)
  | infinite s => finite (if s then -(Real.pi / 2) else Real.pi / 2)
  | nan => nan

/-- The angle of the point `(x, y)`; the infinite points have the angles of the eight winds. -/
def atan2 : Extended ℝ → Extended ℝ → Extended ℝ
  | finite y, finite x => finite (Complex.arg ⟨x, y⟩)
  | finite _, infinite false => finite 0
  | finite y, infinite true => finite (if y < 0 then -Real.pi else Real.pi)
  | infinite s, finite _ => finite (if s then -(Real.pi / 2) else Real.pi / 2)
  | infinite s, infinite t =>
    let angle := if t then 3 * Real.pi / 4 else Real.pi / 4
    finite (if s then -angle else angle)
  | nan, _ | _, nan => nan

def exp : Extended ℝ → Extended ℝ
  | finite x => finite (Real.exp x)
  | infinite s => if s then finite 0 else infinite false
  | nan => nan

def log : Extended ℝ → Extended ℝ
  | finite x => if x < 0 then nan else if x = 0 then infinite true else finite (Real.log x)
  | infinite s => if s then nan else infinite false
  | nan => nan

def sqrt : Extended ℝ → Extended ℝ
  | finite x => if x < 0 then nan else finite √x
  | infinite s => if s then nan else infinite false
  | nan => nan

def hypot : Extended ℝ → Extended ℝ → Extended ℝ
  | finite x, finite y => finite √(x ^ 2 + y ^ 2)
  | infinite _, _ | _, infinite _ => infinite false
  | nan, _ | _, nan => nan

def realPower (x y : ℝ) : Extended ℝ :=
  if 0 < x then finite (x ^ y)
  else if x = 0 then
    if y = 0 then finite 1 else if y < 0 then infinite false else finite 0
  else if (⌊y⌋ : ℝ) = y then finite (x ^ ⌊y⌋)
  else nan

def pow : Extended ℝ → Extended ℝ → Extended ℝ
  | finite x, finite y => realPower x y
  | finite x, infinite s =>
    if |x| = 1 then finite 1
    else if decide (|x| < 1) = s then infinite false else finite 0
  | infinite s, finite y =>
    if y = 0 then finite 1
    else if y < 0 then finite 0
    else infinite (s && decide ((⌊y⌋ : ℝ) = y ∧ Odd ⌊y⌋))
  | infinite _, infinite t => if t then finite 0 else infinite false
  | nan, finite y => if y = 0 then finite 1 else nan
  | finite x, nan => if x = 1 then finite 1 else nan
  | nan, _ | _, nan => nan

instance instElementary : Elementary (Extended ℝ) where
  pi := finite Real.pi
  sin := periodic Real.sin
  cos := periodic Real.cos
  tan := tan
  atan := atan
  atan2 := atan2
  exp := exp
  log := log
  sqrt := sqrt
  hypot := hypot
  pow := pow

end

/-! ## Finite values

Inside its domain each function keeps finite values finite. -/

theorem ofNat_eq (n : ℕ) [n.AtLeastTwo] :
    @OfNat.ofNat (Extended ℝ) n (Scalar.instNumeral n) =
      finite (@OfNat.ofNat ℝ n instOfNatAtLeastTwo) := rfl

theorem pi_eq : (Elementary.pi : Extended ℝ) = finite Real.pi := rfl

theorem sin_finite (x : ℝ) : Elementary.sin (finite x) = finite (Real.sin x) := rfl

theorem cos_finite (x : ℝ) : Elementary.cos (finite x) = finite (Real.cos x) := rfl

theorem tan_finite {x : ℝ} (hx : Real.cos x ≠ 0) :
    Elementary.tan (finite x) = finite (Real.tan x) := if_neg hx

theorem atan_finite (x : ℝ) : Elementary.atan (finite x) = finite (Real.arctan x) := rfl

theorem atan2_finite (y x : ℝ) :
    Elementary.atan2 (finite y) (finite x) = finite (Complex.arg ⟨x, y⟩) := rfl

theorem exp_finite (x : ℝ) : Elementary.exp (finite x) = finite (Real.exp x) := rfl

theorem log_finite {x : ℝ} (hx : 0 < x) : Elementary.log (finite x) = finite (Real.log x) := by
  change (if x < 0 then nan else if x = 0 then infinite true else finite (Real.log x)) = _
  rw [if_neg hx.not_gt, if_neg hx.ne']

theorem sqrt_finite {x : ℝ} (hx : 0 ≤ x) : Elementary.sqrt (finite x) = finite √x :=
  if_neg hx.not_gt

theorem hypot_finite (x y : ℝ) :
    Elementary.hypot (finite x) (finite y) = finite √(x ^ 2 + y ^ 2) := rfl

theorem pow_finite {x : ℝ} (hx : 0 < x) (y : ℝ) :
    Elementary.pow (finite x) (finite y) = finite (x ^ y) := if_pos hx

theorem not_isFinite_hypot {x : Extended ℝ} (hx : Scalar.isFinite x = false) (y : Extended ℝ) :
    Scalar.isFinite (Elementary.hypot x y) = false := by
  cases x with
  | finite v => cases hx
  | infinite s => cases y <;> rfl
  | nan => cases y <;> rfl

end Graticule.Extended
