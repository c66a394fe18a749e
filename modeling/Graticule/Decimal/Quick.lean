import Graticule.Decimal.Reader

/-!
# Quick reading of decimals

As many leading digits as fit in 64 bits are rounded to a machine number, which is then multiplied
or divided by a power of ten.  This rounds up to three times, so the result may miss the nearest
machine number by a unit in the last place.
-/

namespace Graticule.Decimal

private def wordLimit : Nat := powerOfTwo 64

/-- The digits in front that fit when they are added to `n`, and how many are left. -/
private def takeFitting (n : Nat) : List Char → Nat × Nat
  | [] => (n, 0)
  | c :: cs =>
    let m := 10 * n + digitValue c
    if m < wordLimit then takeFitting m cs else (n, cs.length + 1)

/-- The leading digits of a written number as a decimal; those left before the point count in the
exponent. -/
def Numeral.leading (n : Numeral) : Decimal :=
  let (whole, left) := takeFitting 0 n.whole
  let (digits, unread) := takeFitting whole n.fraction
  ⟨digits, n.exponent + left - (n.fraction.length - unread : Nat)⟩

private def greatestPower : Nat := 308

private def powerFloat (n : Nat) : Float := Float.ofScientific 1 false n

/-- The quotient by `10 ^ n`, one power of ten that is a machine number after the other. -/
private def quotientByPower (x : Float) (n : Nat) : Float :=
  if n ≤ greatestPower then x / powerFloat n
  else if x == 0 then x
  else quotientByPower (x / powerFloat greatestPower) (n - greatestPower)
termination_by n
decreasing_by simp only [greatestPower] at *; omega

/-- The quick reading of a written number, unless it is beyond the machine numbers. -/
def Numeral.quick? (n : Numeral) : Option Float :=
  let v := n.leading
  let x := Float.ofNat v.digits
  if v.exponent < 0 then some (quotientByPower x v.exponent.natAbs)
  else if x == 0 then some x
  else if greatestPower < v.exponent.natAbs then none
  else
    let y := x * powerFloat v.exponent.natAbs
    if y.isFinite then some y else none

end Graticule.Decimal
