import Graticule.Binary64.Basic
import Graticule.Decimal.Basic

/-!
# Shortest decimals of machine numbers

The text of a machine number is its shortest decimal that reads back to the same number, and of
those the nearest; the layout settles a tie.  On the grid of decimals with a given number of digits
only the two neighbours of the exact value can read back unless a coarser grid already has one that
does, so the first grid with a hit gives the answer.
-/

namespace Graticule.Decimal

/-- The number of digits before the point of the positive quotient `n / d`. -/
def pointOf (n d : Nat) : Int :=
  if d ≤ n then digitCount (n / d) else 1 - digitCount (d / n)

def mostDigits : Nat := 17

/-- The decimals that read back to `m * 2 ^ q` lie between `(4 * m - below) * 2 ^ (q - 2)` and
`(4 * m + 2) * 2 ^ (q - 2)`; the bounds belong to them when `m` is even. -/
private structure Neighbourhood where
  mantissa : Nat
  below : Nat
  exponent : Int

private def Neighbourhood.of (m : Nat) (q : Int) : Neighbourhood :=
  ⟨m, if m = powerOfTwo 52 ∧ Binary64.leastExponent < q then 1 else 2, q - 2⟩

private def unitRatio (e k : Int) : Nat × Nat :=
  (powerOfTwo e.toNat * powerOfTen (-k).toNat, powerOfTwo (-e).toNat * powerOfTen k.toNat)

/-- Of the multiples `c` and `c + 1` of a grid the one that is nearer, the distances being known. -/
private def nearer (tie : Tie) (c below above : Nat) : Nat :=
  if below < above then c
  else if above < below then c + 1
  else
    match tie with
    | .away => c + 1
    | .even => if c % 2 = 0 then c else c + 1

/-- The neighbour of the exact value on the grid of multiples of `10 ^ k` that reads back to it, the
nearer one if both do. -/
private def Neighbourhood.onGrid? (v : Neighbourhood) (tie : Tie) (k : Int) : Option Nat :=
  let (p, q) := unitRatio v.exponent k
  let centre := 4 * v.mantissa * p
  let reads (c : Nat) : Bool :=
    let low := (4 * v.mantissa - v.below) * p
    let high := (4 * v.mantissa + 2) * p
    if v.mantissa % 2 = 0 then low ≤ c * q && c * q ≤ high else low < c * q && c * q < high
  let c := centre / q
  match reads c, reads (c + 1) with
  | true, true => some (nearer tie c (centre - c * q) ((c + 1) * q - centre))
  | true, false => some c
  | false, true => some (c + 1)
  | false, false => none

/-- The shortest decimal that reads back to the magnitude of a finite machine number. -/
def shortest (tie : Tie) (v : Binary64.Exact) : Decimal :=
  let m := v.mantissa.natAbs
  if m = 0 then ⟨0, 0⟩
  else
    let around := Neighbourhood.of m v.exponent
    let (n, d) := v.quotient
    let point := pointOf n.natAbs d
    let hit := (List.range mostDigits).findSome? fun (i : Nat) =>
      let k : Int := point - (i + 1 : Nat)
      (around.onGrid? tie k).map fun c => (⟨c, k⟩ : Decimal)
    (hit.getD ⟨0, 0⟩).normalize

def ofFloat (layout : Layout) (x : Float) : String :=
  match Binary64.decode? x with
  | some v =>
    let mark := if x.toBits < 0x8000000000000000 then "" else "-"
    mark ++ layout.write (shortest layout.tie v)
  | none => if x.isNaN then "NaN" else if x < 0 then "-inf" else "inf"

end Graticule.Decimal
