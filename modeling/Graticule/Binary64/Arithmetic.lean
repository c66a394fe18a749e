import Graticule.Binary64.Basic

/-!
# Exact operations on machine numbers

Operations whose result is computed exactly and rounded once: the length of a hypotenuse and the
remainder of a division.  Also the comparisons that ignore an argument that is not a number, and the
elementary functions with their limits.
-/

namespace Graticule.Binary64

def least (x y : Float) : Float :=
  if x.isNaN then y else if y.isNaN then x else if x < y then x else y

def greatest (x y : Float) : Float :=
  if x.isNaN then y else if y.isNaN then x else if y < x then x else y

def sign (x : Float) : Float :=
  if x.isNaN then x else if x.toBits < 0x8000000000000000 then 1 else -1

/-- The remainder of `x / y` toward zero, which is always a machine number. -/
def remainder (x y : Float) : Float :=
  match decode? x, decode? y with
  | some u, some v =>
    if v.mantissa = 0 then 0.0 / 0.0
    else
      let e := min u.exponent v.exponent
      let r := ofScaledQuotient ((u.mantissaAt e).tmod (v.mantissaAt e)) 1 e
      if r == 0 && sign x < 0 then -r else r
  | some _, none => if y.isNaN then y else x
  | none, _ => 0.0 / 0.0

/-- The machine number nearest to the square root of `n * 2 ^ (2 * e)`. -/
private def rootOf (n : Nat) (e : Int) : Float :=
  let scaled : Nat := n * powerOfTwo 120
  let root : Nat := scaled.sqrt
  let doubled : Nat := if root * root = scaled then 2 * root else 2 * root + 1
  ofScaledQuotient doubled 1 (e - 61)

def hypot (x y : Float) : Float :=
  match decode? x, decode? y with
  | some u, some v =>
    let e := min u.exponent v.exponent
    let a := (u.mantissaAt e).natAbs
    let b := (v.mantissaAt e).natAbs
    rootOf (a * a + b * b) e
  | _, _ => if x.isInf || y.isInf then 1.0 / 0.0 else 0.0 / 0.0

def pi : Float := 3.141592653589793

def exp (x : Float) : Float :=
  if x.isInf then if x < 0 then 0 else x else x.exp

/-- The angle of a tangent; a zero keeps its sign, and an infinity goes to its limit. -/
def atan (x : Float) : Float :=
  if x == 0 then x else if x.isInf then if x < 0 then -(pi / 2) else pi / 2 else x.atan

def pow (x y : Float) : Float :=
  if y == 0 then 1 else x.pow y

end Graticule.Binary64
