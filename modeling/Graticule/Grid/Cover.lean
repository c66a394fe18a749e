import Graticule.Geometry.Reprojection
import Graticule.Grid.Basic
import Graticule.PixelAxis

/-!
# Grids that cover a geometry

The smallest grid with a given pixel size and alignment whose pixels cover the box around a geometry
up to the slack.
-/

namespace Graticule.Grid

variable {α : Type}

section
variable [Scalar α]

/-- A pixel size can be used: it is finite and not zero. -/
def isPixelSize (res : α) : Bool := !(res == 0) && Scalar.isFinite res

/-- An offset of pixel edges lies between zero and the pixel size. -/
def isOffset (off res : α) : Bool := decide (0 ≤ off) && decide (off ≤ Scalar.abs res)

def checkPixels (resolution alignment : AxisPair α) : Except (Error α) Unit :=
  if !isPixelSize resolution.y || !isPixelSize resolution.x then
    .error (.badResolution resolution.y resolution.x)
  else if !isOffset alignment.x resolution.x || !isOffset alignment.y resolution.y then
    .error (.badAlignment alignment.y alignment.x (Scalar.abs resolution.y)
      (Scalar.abs resolution.x))
  else .ok ()

def ofBox (b : Box α) (resolution alignment : AxisPair α) (crs : Crs α) :
    Except (Error α) (Grid α) :=
  let (x, width) := PixelAxis.cover b.left b.right resolution.x alignment.x
  let (y, height) := PixelAxis.cover b.bottom b.top resolution.y alignment.y
  make width height (.translation x y * .scale resolution.x resolution.y) crs

end

variable [Elementary α] [Planar α]

/-- The geometry in a reference system, or as it is when that is its own. -/
def inSystem (geometry : Geometry α) (crs : Crs α) : Except (Error α) (Geometry α) :=
  if geometry.crs == some crs then .ok geometry else geometry.toCrs crs .default

/-- The smallest grid that covers a geometry, in a given reference system or in that of the
geometry; without an alignment pixel edges lie at whole multiples of the pixel size. -/
def ofGeometry (geometry : Geometry α) (resolution : AxisPair α) (target : Option (Crs α))
    (alignment : Option (AxisPair α)) : Except (Error α) (Grid α) := do
  let alignment := alignment.getD ⟨0, 0⟩
  checkPixels resolution alignment
  match target <|> geometry.crs with
  | none => throw .geometryWithoutCrs
  | some crs =>
    let b ← (← inSystem geometry crs).envelope
    ofBox b resolution alignment crs

end Graticule.Grid
