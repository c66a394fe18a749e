import Graticule.Geometry.Reprojection
import Graticule.Grid.Basic

/-!
# Footprints of grids

The area that the pixels of a grid cover, in the system of the grid and as longitudes and latitudes.
-/

namespace Graticule.Grid

variable {α : Type}

def extent [Scalar α] (g : Grid α) : Geometry α :=
  ⟨.ofImage (Scalar.ofNat g.width) (Scalar.ofNat g.height) g.affine, some g.crs⟩

def geographicCode : Nat := 4326

def geographicExtent [Elementary α] [Planar α] [Written α] (g : Grid α) :
    Except (Error α) (Geometry α) :=
  if g.crs.isGeographic then .ok g.extent
  else
    match Crs.ofCode geographicCode with
    | .ok target => g.extent.toCrs target .default
    | .error cause => .error (.crs cause)

end Graticule.Grid
