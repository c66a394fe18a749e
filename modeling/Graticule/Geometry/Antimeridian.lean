import Graticule.Geometry.Basic
import Graticule.Planar.Contact

/-!
# Cutting at the antimeridian

A geometry that straddles the 180th meridian in a system that is continuous there is cut in its own
plane, so that each piece lies on one side.  Two meridians just short of 180° on either side are the
cut lines; what lies between the far edges of the geometry's box and these lines is kept.
-/

namespace Graticule.Antimeridian

variable {α : Type}

/-- The region between the vertical at `x` and a line, whose ends are prolonged vertically to reach
from `bottom` to `top`. -/
def halfPlane [Scalar α] (x bottom top : α) (line : Path α) : Polygon α :=
  match line.head?, line.getLast? with
  | some first, some last =>
    let bottom := Scalar.least bottom first.y
    let top := Scalar.greatest top last.y
    .ofPaths (Path.dropRepeats
      ([⟨x, top⟩, ⟨x, bottom⟩, ⟨first.x, bottom⟩] ++ line ++ [⟨last.x, top⟩, ⟨x, top⟩])) []
  | _, _ => .ofPaths [] []

section
variable [Elementary α]

/-- The distance of the cut lines from the antimeridian, in degrees. -/
def seam : α := 1e-9

/-- The square of the largest gap between the two sides of a continuous seam. -/
def largestGapSquared : α := 1

/-- The system is continuous across the antimeridian at a latitude: the points on both sides lie
together and return to where they came from.  `forward` leads to longitudes and latitudes and
`inverse` back. -/
def isSmooth (midLat : α) (forward inverse : Position α → Position α) (eps : α) : Bool :=
  let west : Position α := ⟨180 - eps, midLat⟩
  let east : Position α := ⟨-180 + eps, midLat⟩
  let returns (p : Position α) : Bool :=
    decide ((forward (inverse p)).distanceSquared p ≤ 2 * eps * eps)
  decide ((inverse west).distanceSquared (inverse east) ≤ largestGapSquared)
    && returns west && returns east

/-- The latitudes of the vertices of a cut line, from pole to pole. -/
def cutLatitudes : List α :=
  (List.range 181).map fun i => -90 + Scalar.ofNat i * 1

def cutLine (inverse : Position α → Position α) (lon : α) : Path α :=
  (cutLatitudes.map fun lat => inverse ⟨lon, lat⟩).filter (·.isFinite)

end

section
variable [Scalar α] [Planar α]

def inMask (mask : List (Polygon α)) (p : Position α) : Bool :=
  mask.any (·.covers p)

mutual

def clip (mask : List (Polygon α)) (shape : Shape α) : Shape α :=
  match shape with
  | .point p => if inMask mask p then .point p else .multiPoint []
  | .multiPoint ps => .multiPoint (ps.filter (inMask mask))
  | .collection members => .collection (clipMembers mask members)
  | shape =>
    match shape.areas?, shape.lines? with
    | some ps, _ => .ofPolygons (Planar.combine .intersection ps mask)
    | none, some paths => .multiLineString (Planar.clip paths mask)
    | none, none => shape

def clipMembers (mask : List (Polygon α)) : List (Shape α) → List (Shape α)
  | [] => []
  | s :: ss => clip mask s :: clipMembers mask ss

end

end

variable [Elementary α] [Planar α]

/-- The area that is kept: between the far edges of a box and the cut lines. -/
def keptArea (inverse : Position α → Position α) (box : Box α) : List (Polygon α) :=
  Planar.combine .union
    [halfPlane box.left box.bottom box.top (cutLine inverse (180 - seam))]
    [halfPlane box.right box.bottom box.top (cutLine inverse (-180 + seam))]

/-- The geometry cut at the antimeridian, or as it is when it is empty, when its system is not
continuous there, or when it does not reach the first cut line. -/
def chop (forward inverse : Position α → Position α) (g : Geometry α) : Geometry α :=
  match g.shape.box? with
  | none => g
  | some box =>
    let midLat := (forward box.centre).y
    if !isSmooth midLat forward inverse seam then g
    else if !(cutLine inverse (180 - seam)).meets g.shape then g
    else g.withShape (clip (keptArea inverse box) g.shape)

end Graticule.Antimeridian
