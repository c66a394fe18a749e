import Graticule.Scalar

/-!
# Angles

Degrees and radians, and the representative of a longitude within half a turn of zero.
-/

namespace Graticule

/-- Where a loop ends that takes a step as long as it goes on, if it ends within `n` steps. -/
def loop? {α : Type} (goesOn : α → Prop) [DecidablePred goesOn] (step : α → α) :
    Nat → α → Option α
  | 0, x => if goesOn x then none else some x
  | n + 1, x => if goesOn x then loop? goesOn step n (step x) else some x

namespace Angle

variable {α : Type} [Elementary α]

/-- Degrees as radians. -/
def radians (degrees : α) : α := degrees * (Elementary.pi / 180)

/-- Radians as degrees. -/
def degrees (radians : α) : α := radians * (180 / Elementary.pi)

/-- A quarter of a turn. -/
def right : α := Elementary.pi / 2

/-- An eighth of a turn. -/
def halfRight : α := Elementary.pi / 4

def turn : α := 2 * Elementary.pi

-- twice the turns that the angle counts, since a rounded turn takes it less far
/-- No fewer than the turns that bring an angle within half a turn of zero, if any number does. -/
def turnsWithin (x : α) : Nat :=
  if Scalar.isFinite x then 2 * Scalar.toNat (Scalar.abs x / turn) + 2 else 0

/-- Turns back, until the angle is no more than half a turn. -/
def turnBack? (x : α) : Option α := loop? (Elementary.pi < ·) (· - turn) (turnsWithin x) x

/-- Turns forward, until the angle is no less than half a turn below zero. -/
def turnForward? (x : α) : Option α := loop? (· < -Elementary.pi) (· + turn) (turnsWithin x) x

/-- A longitude, moved by whole turns until it lies within half a turn of zero.  No number of turns
moves an infinite longitude, nor one so great that a turn is lost in rounding. -/
def wrap? (x : α) : Option α := (turnBack? x).bind turnForward?

/-- The longitude within half a turn of zero, if there is one. -/
def wrap (x : α) : α := (wrap? x).getD x

end Angle

end Graticule
