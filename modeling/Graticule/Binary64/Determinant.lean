import Graticule.Binary64.Expansion
import Graticule.Position

/-!
# The sign of a determinant

The determinant that tells on which side of a line a point lies is found in machine numbers with a
bound for its error, and with more digits as long as the bound leaves the sign open.  Where products
overflow it is not a number, and where they underflow it may be zero.
-/

namespace Graticule.Binary64

private def unit : Float := 1.1102230246251565e-16

private def isBeyond (bound x : Float) : Bool :=
  decide (bound ≤ x) || decide (bound ≤ -x)

private def crossDifference (a b c d : Float) : Expansion :=
  .ofDifference (exactProduct a b) (exactProduct c d)

/-- The determinant from differences of coordinates and their errors, when `size` is the rounded sum
of the two products. -/
private def refined (p q r : Position Float) (size : Float) : Float :=
  let ax := p.x - r.x
  let bx := q.x - r.x
  let ay := p.y - r.y
  let bY := q.y - r.y
  let main := crossDifference ax bY ay bx
  let det := main.estimate
  if isBeyond ((2.0 + 12.0 * unit) * unit * size) det then det
  else
    let ax' := differenceError p.x r.x ax
    let bx' := differenceError q.x r.x bx
    let ay' := differenceError p.y r.y ay
    let bY' := differenceError q.y r.y bY
    if ax' == 0 && ay' == 0 && bx' == 0 && bY' == 0 then det
    else
      let bound := (9.0 + 64.0 * unit) * unit * unit * size + (3.0 + 8.0 * unit) * unit * det.abs
      let det := det + ((ax * bY' + bY * ax') - (ay * bx' + bx * ay'))
      if isBeyond bound det then det
      else
        ((main.add (crossDifference ax' bY ay' bx)).add (crossDifference ax bY' ay bx')).add
          (crossDifference ax' bY' ay' bx') |>.leading

/-- Positive when `r` lies to the left of the line from `p` to `q`, negative to the right, and zero
on it. -/
def determinant (p q r : Position Float) : Float :=
  let left := (p.x - r.x) * (q.y - r.y)
  let right := (p.y - r.y) * (q.x - r.x)
  let det := left - right
  let size := (left + right).abs
  if isBeyond (3.3306690621773722e-16 * size) det then det else refined p q r size

end Graticule.Binary64
