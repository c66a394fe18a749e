import Graticule.Grid.Basic

/-!
# Labels of rows and columns

Every row and every column is labelled with the coordinate of its pixel centres.
-/

namespace Graticule

structure Axis (α : Type) where
  dimension : String
  units : String
  /-- The signed distance from one label to the next. -/
  resolution : α
  labels : List α

namespace Grid

variable {α : Type} [Scalar α]

/-- The centres of `n` pixels of signed size `res`, the first of which starts at `off`. -/
def centres (n : Nat) (off res : α) : List α :=
  (List.range n).map fun i => Scalar.ofNat i * res + (off + res / 2)

def labels (g : Grid α) : AxisPair (Axis α) where
  y := ⟨g.crs.dimensions.y, g.crs.units.y, g.resolution.y,
    centres g.height g.affine.f g.resolution.y⟩
  x := ⟨g.crs.dimensions.x, g.crs.units.x, g.resolution.x,
    centres g.width g.affine.c g.resolution.x⟩

end Grid

end Graticule
