import Graticule.Error
import Graticule.Geometry.Shape

/-!
# Shapes as GeoJSON

`Shape.toGeoJson` writes a shape and `Shape.ofGeoJson` reads one.  A feature stands for its geometry
and whatever follows the first two numbers of a position is passed over.
-/

namespace Graticule.Shape

variable {α : Type} [Scalar α]

def positionJson (p : Position α) : Json α := .array [.ofScalar p.x, .ofScalar p.y]

def pathJson (path : Path α) : Json α := .array (path.map positionJson)

def polygonJson (p : Polygon α) : Json α := .array (p.rings.map pathJson)

def typed (kind : String) (coordinates : Json α) : Json α :=
  .object [("coordinates", coordinates), ("type", .string kind)]

mutual

def toGeoJson : Shape α → Json α
  | point p => typed "Point" (positionJson p)
  | multiPoint ps => typed "MultiPoint" (pathJson ps)
  | segment a b => typed "LineString" (pathJson [a, b])
  | lineString path => typed "LineString" (pathJson path)
  | multiLineString paths => typed "MultiLineString" (.array (paths.map pathJson))
  | polygon p => typed "Polygon" (polygonJson p)
  | rectangle low high => typed "Polygon" (polygonJson (rectanglePolygon low high))
  | triangle a b c => typed "Polygon" (polygonJson (trianglePolygon a b c))
  | multiPolygon ps => typed "MultiPolygon" (.array (ps.map polygonJson))
  | collection members =>
    .object [("geometries", .array (membersToGeoJson members)),
      ("type", .string "GeometryCollection")]

def membersToGeoJson : List (Shape α) → List (Json α)
  | [] => []
  | s :: ss => s.toGeoJson :: membersToGeoJson ss

end

def itemsOf (v : Json α) : Except (Error α) (List (Json α)) :=
  match v with
  | .array items => .ok items
  | v => .error (.notAnArray v)

/-- The position that starts an array. -/
def positionOf (v : Json α) : Except (Error α) (Position α) := do
  match (← itemsOf v) with
  | x :: y :: _ =>
    match x.number?, y.number? with
    | some x, some y => .ok ⟨x, y⟩
    | _, _ => .error (.badPosition v)
  | _ => .error (.badPosition v)

def pathOf (v : Json α) : Except (Error α) (Path α) := do
  (← itemsOf v).mapM positionOf

def polygonOf (v : Json α) : Except (Error α) (Polygon α) := do
  match (← (← itemsOf v).mapM pathOf) with
  | [] => .ok (.ofPaths [] [])
  | exterior :: holes => .ok (.ofPaths exterior holes)

def ofCoordinates (kind : String) (v : Json α) : Except (Error α) (Shape α) :=
  match kind with
  | "Point" => point <$> positionOf v
  | "MultiPoint" => multiPoint <$> pathOf v
  | "LineString" => lineString <$> pathOf v
  | "MultiLineString" => do multiLineString <$> (← itemsOf v).mapM pathOf
  | "Polygon" => polygon <$> polygonOf v
  | "MultiPolygon" => do multiPolygon <$> (← itemsOf v).mapM polygonOf
  | _ => .error (.unknownKind kind)

mutual

def ofGeoJson (v : Json α) : Except (Error α) (Shape α) :=
  match v with
  | .object members =>
    match (members.lookup "type").bind Json.string? with
    | none => .error .untyped
    | some "Feature" => ofFeature members
    | some "GeometryCollection" => ofCollection members
    | some kind =>
      match members.lookup "coordinates" with
      | none => .error (.withoutCoordinates kind)
      | some coordinates => ofCoordinates kind coordinates
  | _ => .error .untyped

def ofFeature : List (String × Json α) → Except (Error α) (Shape α)
  | [] => .error .featureWithoutGeometry
  | (name, v) :: rest => if name == "geometry" then ofGeoJson v else ofFeature rest

def ofCollection : List (String × Json α) → Except (Error α) (Shape α)
  | [] => .error .collectionWithoutMembers
  | (name, v) :: rest =>
    if name == "geometries" then
      match v with
      | .array items => collection <$> ofItems items
      | _ => .error .collectionWithoutMembers
    else ofCollection rest

def ofItems : List (Json α) → Except (Error α) (List (Shape α))
  | [] => .ok []
  | v :: vs => do
    let s ← ofGeoJson v
    let ss ← ofItems vs
    return s :: ss

end

end Graticule.Shape
