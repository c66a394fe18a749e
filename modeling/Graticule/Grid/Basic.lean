import Graticule.Crs.Basic
import Graticule.Error
import Graticule.Tolerance

/-!
# Grids

A grid has rows and columns of pixels, placed in a reference system by an affine map that takes
(column, row) to a position.  The map neither turns nor shears, so a grid has one pixel size and one
offset along each axis.
-/

namespace Graticule

/-- A grid of pixels in a reference system. -/
structure Grid (α : Type) [Scalar α] where
  width : Nat
  height : Nat
  affine : Affine α
  crs : Crs α
  /-- The map neither turns nor shears. -/
  axisAligned : affine.isAxisAligned = true

namespace Grid

variable {α : Type} [Scalar α]

/-- The grid with the given parts, unless its map turns or shears. -/
def make (width height : Nat) (affine : Affine α) (crs : Crs α) : Except (Error α) (Grid α) :=
  if h : affine.isAxisAligned = true then .ok ⟨width, height, affine, crs, h⟩
  else .error (.notAxisAligned affine)

instance : BEq (Grid α) where
  beq g h := g.width == h.width && g.height == h.height && g.affine == h.affine && g.crs == h.crs

def isEmpty (g : Grid α) : Bool := g.width == 0 || g.height == 0

def resolution (g : Grid α) : AxisPair α := ⟨g.affine.e, g.affine.a⟩

/-- The offset of the pixel edges, less than a pixel. -/
def alignment (g : Grid α) : AxisPair α :=
  ⟨Scalar.modulo g.affine.f (Scalar.abs g.affine.e),
    Scalar.modulo g.affine.c (Scalar.abs g.affine.a)⟩

def text [Written α] (g : Grid α) : String :=
  "GeoBox(" ++ toString g.width ++ ", " ++ toString g.height ++ ", " ++ g.affine.text ++ ", "
    ++ g.crs.identifier ++ ")"

end Grid

end Graticule
