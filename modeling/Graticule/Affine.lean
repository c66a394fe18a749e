import Graticule.Position
import Graticule.Power

/-!
# Affine maps of the plane

An affine map places pixel coordinates (column, row) in the world.  The product of two maps applies
the right factor first; a map is inverted unless its determinant is negligible.
-/

namespace Graticule

/-- The map `(x, y) ↦ (a * x + b * y + c, d * x + e * y + f)`. -/
structure Affine (α : Type) where
  a : α
  b : α
  c : α
  d : α
  e : α
  f : α
deriving BEq, Repr, Inhabited

namespace Affine

variable {α : Type} [Scalar α]

def identity : Affine α := ⟨1, 0, 0, 0, 1, 0⟩

/-- The shift by `(tx, ty)`. -/
def translation (tx ty : α) : Affine α := ⟨1, 0, tx, 0, 1, ty⟩

/-- The stretch of the axes by `sx` and `sy`. -/
def scale (sx sy : α) : Affine α := ⟨sx, 0, 0, 0, sy, 0⟩

def coefficients (t : Affine α) : List α := [t.a, t.b, t.c, t.d, t.e, t.f]

def ofCoefficients? : List α → Option (Affine α)
  | [a, b, c, d, e, f] => some ⟨a, b, c, d, e, f⟩
  | _ => none

def isAxisAligned (t : Affine α) : Bool := t.b == 0 && t.d == 0

def determinant (t : Affine α) : α := t.a * t.e - t.b * t.d

def apply (t : Affine α) (p : Position α) : Position α :=
  ⟨t.a * p.x + t.b * p.y + t.c, t.d * p.x + t.e * p.y + t.f⟩

/-- The composition that applies `u` first and then `t`. -/
def mul (t u : Affine α) : Affine α where
  a := t.a * u.a + t.b * u.d
  b := t.a * u.b + t.b * u.e
  c := t.a * u.c + t.b * u.f + t.c
  d := t.d * u.a + t.e * u.d
  e := t.d * u.b + t.e * u.e
  f := t.d * u.c + t.e * u.f + t.f

instance : Mul (Affine α) := ⟨mul⟩

/-- The magnitude below which a determinant is negligible, `2 ^ (-104)`. -/
def negligible : α := 1 / Scalar.ofNat (powerOfTwo 104)

/-- The inverse map, unless the determinant is negligible. -/
def inverse? (t : Affine α) : Option (Affine α) :=
  let det := t.determinant
  if Scalar.abs det < negligible then none
  else
    let s := 1 / det
    let a := t.e * s
    let b := -t.b * s
    let d := -t.d * s
    let e := t.a * s
    some ⟨a, b, -t.c * a - t.f * b, d, e, -t.c * d - t.f * e⟩

def text [Written α] (t : Affine α) : String :=
  "Affine(" ++ ", ".intercalate (t.coefficients.map Written.text) ++ ")"

end Affine

end Graticule
