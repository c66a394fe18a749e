import Graticule.Scalar

/-!
# Positions

A point of the plane, given by its coordinate along each axis.
-/

namespace Graticule

structure Position (α : Type) where
  x : α
  y : α
deriving BEq, Repr, Inhabited

namespace Position

variable {α : Type} [Scalar α]

def isFinite (p : Position α) : Bool :=
  Scalar.isFinite p.x && Scalar.isFinite p.y

def distanceSquared (p q : Position α) : α :=
  (p.x - q.x) * (p.x - q.x) + (p.y - q.y) * (p.y - q.y)

/-- The displacement from `q` to `p`. -/
def minus (p q : Position α) : Position α :=
  ⟨p.x - q.x, p.y - q.y⟩

/-- The area of the parallelogram over two displacements, positive when the second lies to the left
of the first. -/
def cross (p q : Position α) : α :=
  p.x * q.y - p.y * q.x

end Position

end Graticule
