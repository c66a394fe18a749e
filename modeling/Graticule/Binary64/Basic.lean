import Graticule.Power
import Graticule.Rounding

/-!
# Machine numbers as exact values

A finite 64-bit machine number is a whole number times a power of two.  `Binary64.decode?` takes a
machine number apart, and `Binary64.ofQuotient` gives the machine number nearest to a quotient, a
tie going to the even neighbour.
-/

namespace Graticule.Binary64

structure Exact where
  mantissa : Int
  exponent : Int
deriving BEq, Repr

def leastExponent : Int := -1074

/-- The exact value of a machine number, or `none` when it is not finite. -/
def decode? (x : Float) : Option Exact :=
  let bits := x.toBits.toNat
  let biased : Nat := bits / powerOfTwo 52 % 2048
  let fraction : Nat := bits % powerOfTwo 52
  if biased = 2047 then none
  else
    let magnitude : Nat := if biased = 0 then fraction else fraction + powerOfTwo 52
    let mantissa : Int := if bits < powerOfTwo 63 then magnitude else -magnitude
    some ⟨mantissa, ((max biased 1 : Nat) : Int) - 1075⟩

/-- The numerator and denominator of `n / d` after division by `2 ^ e`. -/
private def scaleQuotient (n d : Nat) (e : Int) : Nat × Nat :=
  if 0 ≤ e then (n, d * powerOfTwo e.toNat) else (n * powerOfTwo (-e).toNat, d)

/-- The exponent at which `n / d` has a 53-bit whole part, or the least exponent if that is more. -/
private def exponentOf (n d : Nat) : Int :=
  let guess : Int := (n.log2 : Int) - d.log2 - 52
  let (n', d') := scaleQuotient n d guess
  max leastExponent (if n' < d' * powerOfTwo 52 then guess - 1 else guess)

def ofQuotient (n : Int) (d : Nat) : Float :=
  if n = 0 then 0
  else
    let e := exponentOf n.natAbs d
    let (n', d') := scaleQuotient n.natAbs d e
    let magnitude := (Float.ofNat (roundQuotient n' d')).scaleB e
    if n < 0 then -magnitude else magnitude

def ofScaledQuotient (n : Int) (d : Nat) (e : Int) : Float :=
  if 0 ≤ e then ofQuotient (n * powerOfTwo e.toNat) d
  else ofQuotient n (d * powerOfTwo (-e).toNat)

namespace Exact

def mantissaAt (v : Exact) (e : Int) : Int :=
  v.mantissa * powerOfTwo (v.exponent - e).toNat

def quotient (v : Exact) : Int × Nat :=
  if 0 ≤ v.exponent then (v.mantissa * powerOfTwo v.exponent.toNat, 1)
  else (v.mantissa, powerOfTwo (-v.exponent).toNat)

end Exact

end Graticule.Binary64
