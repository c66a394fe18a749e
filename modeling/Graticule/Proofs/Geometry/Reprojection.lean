import Graticule.Geometry.Reprojection
import Graticule.Planar.Binary64
import Graticule.Proofs.Except
import Graticule.Proofs.Geometry.Correspondence
import Graticule.Proofs.Projection.Wrapping

/-!
# Reprojected shapes

Reprojection follows every vertex of the segmented shape: line by line and ring by ring the result
is the image of the segmented vertex list, so it has the images of all vertices in their order.  A
ring is the one exception.  A polygon closes its rings, so where the image of the last vertex of a
ring is not equal to that of the first, the latter is added.  That takes an image that is not a
number, or ends that are equal and yet not the same, as zeros of opposite sign are.

A step that is not positive and finite segments nothing.

The formulas wrap longitudes in loops that do not end for every machine number.  What is said of a
result holds where they end for all vertices, and elsewhere there is none.
-/

namespace Graticule

variable {α : Type} [Elementary α]

namespace Path

/-! ## Segmented and moved paths -/

section

variable [Scalar.FiniteRefl α] {f : Position α → Position α}

end

end Path

namespace Shape

/-! ## Shapes -/

section

variable {step : α} {s : Shape α}

end

end Shape

/-! ## Geometries -/

namespace Geometry

variable [Planar α] {g : Geometry α} {source target : Crs α} {options : ReprojectOptions α}

end Geometry

end Graticule
