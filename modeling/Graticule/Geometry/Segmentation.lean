import Graticule.Geometry.Shape

/-!
# Segmentation

`Shape.segmented` puts vertices on the edges of a shape, at whole multiples of a step from the start
of each edge, so that no edge is longer than the step.
-/

namespace Graticule

variable {α : Type} [Elementary α]

namespace Path

/-- The multiples of `step` that are less than `length`. -/
def stations (step length : α) : List α :=
  (((List.range (Scalar.toNat (length / step) + 1)).map fun k =>
    (Scalar.ofNat (k + 1) : α) * step).takeWhile fun d => decide (d < length))

/-- The points on the edge from `p` to `q` at the stations of its length. -/
def stationsBetween (step : α) (p q : Position α) : Path α :=
  let d := q.minus p
  let length := Elementary.hypot d.x d.y
  if Scalar.isFinite length then
    (stations step length).map fun s => ⟨p.x + d.x * (s / length), p.y + d.y * (s / length)⟩
  else []

def segmented (step : α) : Path α → Path α
  | p :: q :: rest => p :: (stationsBetween step p q ++ segmented step (q :: rest))
  | path => path

end Path

namespace Shape

mutual

/-- The shape with every line and ring segmented; a line between two points becomes a path, and a
rectangle or a triangle a polygon. -/
def segmentedBy (step : α) : Shape α → Shape α
  | point p => point p
  | multiPoint ps => multiPoint ps
  | segment a b => lineString (Path.segmented step [a, b])
  | lineString path => lineString (path.segmented step)
  | multiLineString paths => multiLineString (paths.map (Path.segmented step))
  | polygon p => polygon (p.mapRings (Path.segmented step))
  | rectangle low high => polygon ((rectanglePolygon low high).mapRings (Path.segmented step))
  | triangle a b c => polygon ((trianglePolygon a b c).mapRings (Path.segmented step))
  | multiPolygon ps => multiPolygon (ps.map (·.mapRings (Path.segmented step)))
  | collection members => collection (segmentedMembers step members)

def segmentedMembers (step : α) : List (Shape α) → List (Shape α)
  | [] => []
  | s :: ss => s.segmentedBy step :: segmentedMembers step ss

end

/-- The shape segmented by a positive finite step; any other step changes nothing. -/
def segmented (step : α) (s : Shape α) : Shape α :=
  if Scalar.isFinite step && decide (0 < step) then s.segmentedBy step else s

end Shape

end Graticule
