import Graticule.Scalar

/-!
# Pixels along an axis

Covering an interval with whole pixels whose edges keep a given offset.  A pixel may fall short of
the end of the interval by a tenth of its size.
-/

namespace Graticule.PixelAxis

variable {α : Type} [Scalar α]

def slack : α := 0.1

/-- The whole number of pixels that a finite count above one stands for, and one for any other. -/
def pixelCount (count : α) : Nat :=
  if Scalar.isFinite count && decide (1 < count) then Scalar.toNat count else 1

/-- The first pixel edge and the number of pixels of size `|res|` that cover `[left, right]`, edges
lying at `off` modulo `|res|`.  A negative `res` starts at the right end. -/
def cover (left right res off : α) : α × Nat :=
  if res < 0 then
    let res := -res
    let origin := Scalar.ceil ((right - off) / res) * res + off
    (origin, pixelCount (Scalar.ceil ((origin - left - slack * res) / res)))
  else
    let origin := Scalar.floor ((left - off) / res) * res + off
    (origin, pixelCount (Scalar.ceil ((right - origin - slack * res) / res)))

/-- The least number of pixels of size `|res|` that reach `value` up to the slack. -/
def pixelsFor (value res : α) : Int :=
  let res := Scalar.abs res
  Scalar.toInt (Scalar.ceil ((value - slack * res) / res))

end Graticule.PixelAxis
