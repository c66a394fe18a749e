import Graticule.Angle

/-!
# Ellipsoids of revolution

An ellipsoid is given by its equatorial radius and its flattening.  The isometric variable of a
latitude and its inverse by fixed-point iteration serve every conformal projection.
-/

namespace Graticule

structure Ellipsoid (α : Type) where
  /-- The equatorial radius in metres. -/
  a : α
  /-- The flattening, zero for a sphere. -/
  f : α
deriving BEq, Repr

namespace Ellipsoid

section
variable {α : Type} [Scalar α]

def wgs84 : Ellipsoid α := ⟨6378137, 1 / 298.257223563⟩

def grs80 : Ellipsoid α := ⟨6378137, 1 / 298.257222101⟩

def sphere (radius : α) : Ellipsoid α := ⟨radius, 0⟩

def webSphere : Ellipsoid α := sphere 6378137

def named? (name : String) : Option (Ellipsoid α) :=
  match String.ofList (name.toList.map Char.toUpper) with
  | "WGS84" => some wgs84
  | "GRS80" => some grs80
  | "SPHERE" => some (sphere 6370997)
  | _ => none

def b (e : Ellipsoid α) : α := e.a * (1 - e.f)

def isSphere (e : Ellipsoid α) : Bool := e.f == 0

/-- The reciprocal of the flattening, zero for a sphere. -/
def inverseFlattening (e : Ellipsoid α) : α := if e.f == 0 then 0 else 1 / e.f

end

section
variable {α : Type} [Elementary α]

def eccentricity (e : Ellipsoid α) : α := Elementary.sqrt (e.f * (2 - e.f))

end

end Ellipsoid

namespace Latitude

variable {α : Type} [Elementary α]

/-- `(1 - e sin φ) / (1 + e sin φ)`. -/
def sineRatio (phi e : α) : α :=
  let s := e * Elementary.sin phi
  (1 - s) / (1 + s)

/-- The isometric variable of the latitude `phi` at eccentricity `e`: one on the equator and zero at
the north pole. -/
def isometric (phi e : α) : α :=
  Elementary.tan (Angle.halfRight - 0.5 * phi) / Elementary.pow (sineRatio phi e) (0.5 * e)

def mostSteps : Nat := 30

def lastStep : α := 1e-15

/-- The latitude whose isometric variable would be `t` if the ellipsoid were flattened as at
`phi`. -/
def refine (t e phi : α) : α :=
  Angle.right - 2 * Elementary.atan (t * Elementary.pow (sineRatio phi e) (0.5 * e))

/-- At most `n` steps from `phi`. -/
def approach (t e : α) : Nat → α → α
  | 0, phi => phi
  | n + 1, phi =>
    let step := refine t e phi - phi
    let phi := phi + step
    if Scalar.abs step ≤ lastStep then phi else approach t e n phi

/-- The latitude with isometric variable `t` at eccentricity `e`. -/
def ofIsometric (t e : α) : α :=
  approach t e mostSteps (Angle.right - 2 * Elementary.atan t)

/-- The radius of the parallel at `phi` on an ellipsoid of equatorial radius one. -/
def parallelRadius (phi e : α) : α :=
  let s := Elementary.sin phi
  Elementary.cos phi / Elementary.sqrt (1 - e * e * s * s)

end Latitude

end Graticule
