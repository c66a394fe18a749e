import Graticule.Decimal.Shortest

/-!
# Machine numbers rounded to decimal places

Rounding from the exact value, a tie going to the even neighbour, and back to the nearest machine
number.
-/

namespace Graticule.Decimal

/-- The machine number nearest to the multiple of `10 ^ k` that is nearest to `n / d`. -/
private def roundAt (n : Int) (d : Nat) (k : Int) : Float :=
  let up := powerOfTen (-k).toNat
  let down := powerOfTen k.toNat
  let magnitude : Nat := roundQuotient (n.natAbs * up) (d * down)
  let signed : Int := if n < 0 then -magnitude else magnitude
  Binary64.ofQuotient (signed * down) up

def toPlaces (places : Nat) (x : Float) : Float :=
  match Binary64.decode? x with
  | some v => let (n, d) := v.quotient; roundAt n d (-places)
  | none => x

def toSignificant (digits : Nat) (x : Float) : Float :=
  match Binary64.decode? x with
  | some v =>
    let (n, d) := v.quotient
    if n = 0 then x else roundAt n d (pointOf n.natAbs d - digits)
  | none => x

end Graticule.Decimal
