import Graticule.Binary64.Determinant
import Graticule.Binary64.Scalar
import Graticule.Planar.Basic
import Graticule.Planar.Clipping
import Graticule.Planar.Overlay

/-!
# Point sets over machine numbers

Machine coordinates are whole multiples of a power of two, so areas and lines are cut exactly and
only the points of a result are rounded to machine numbers.  A vertex that is not finite is passed
over.
-/

namespace Graticule.Planar

open Binary64

private def exponentOf (x : Float) : Int :=
  match decode? x with
  | some v => v.exponent
  | none => 0

private def leastExponent (paths : List (Path Float)) : Int :=
  paths.flatten.foldl (fun e p => min e (min (exponentOf p.x) (exponentOf p.y))) 0

private def site? (e : Int) (p : Position Float) : Option Site :=
  match decode? p.x, decode? p.y with
  | some x, some y => some ⟨x.mantissaAt e, y.mantissaAt e, 1⟩
  | _, _ => none

private def sites (e : Int) (path : Path Float) : List Site := path.filterMap (site? e)

private def position (e : Int) (p : Site) : Position Float :=
  ⟨ofScaledQuotient p.x p.w.toNat e, ofScaledQuotient p.y p.w.toNat e⟩

private def pathsOf (polygons : List (Polygon Float)) : List (Path Float) :=
  polygons.flatMap (·.rings)

private def outline (e : Int) (polygons : List (Polygon Float)) : List Segment :=
  (pathsOf polygons).flatMap fun path => Arrangement.chain (sites e path)

private def polygonOf (e : Int) (rings : List (List Site)) : Polygon Float :=
  match rings.map (·.map (position e)) with
  | [] => .ofPaths [] []
  | exterior :: holes => .ofPaths exterior holes

private def combineFloat (op : SetOperation) (a b : List (Polygon Float)) : List (Polygon Float) :=
  let e := leastExponent (pathsOf a ++ pathsOf b)
  (Overlay.combine op (outline e a) (outline e b)).map (polygonOf e)

private def clipFloat (lines : List (Path Float)) (polygons : List (Polygon Float)) :
    List (Path Float) :=
  let e := leastExponent (lines ++ pathsOf polygons)
  let area := outline e polygons
  (Clipping.clip area (lines.map (sites e))).map (·.map (position e))

private def turnFloat (p q r : Position Float) : Turn :=
  let d := determinant p q r
  if 0 < d then .left else if d < 0 then .right else .straight

instance instFloat : Planar Float where
  turn := turnFloat
  combine := combineFloat
  clip := clipFloat

end Graticule.Planar
