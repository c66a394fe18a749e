import Graticule.Geometry.GeoJson
import Graticule.Grid.Cover
import Graticule.Grid.Description
import Graticule.Grid.Lattice
import Graticule.Json.Reader
import Graticule.Planar.Binary64

/-!
# Commands

A command reads one file and gives a JSON value: the description of a grid, or a geometry.  The
contents of a file that cannot be read are absent.
-/

namespace Graticule.CommandLine

inductive CommandError where
  | unreadable (file : String)
  | malformedJson (file : String)
  | malformedGrids (file : String)
  | fault (cause : Error Float)

namespace CommandError

/-- The fault in words; the stable name of its kind comes first where it has one. -/
def message : CommandError → String
  | unreadable file => "Failed to read " ++ file
  | malformedJson file => "Failed to parse JSON from " ++ file
  | malformedGrids file => "Failed to parse grid list from " ++ file
  | fault cause => cause.kind.name ++ ": " ++ cause.message

end CommandError

/-- A file and its contents, if it can be read, and how the numbers of JSON texts are read. -/
structure Source where
  file : String
  contents : Option String
  precision : Precision

namespace Source

def text (s : Source) : Except CommandError String :=
  match s.contents with
  | some text => .ok text
  | none => .error (.unreadable s.file)

def json (s : Source) : Except CommandError (Json Float) := do
  match Json.readWith? s.precision (← s.text) with
  | some v => return v.settle
  | none => throw (.malformedJson s.file)

def grids (s : Source) : Except CommandError (List (Grid Float)) := do
  match GridDescription.listOfYamlText? (← s.text) with
  | none => throw (.malformedGrids s.file)
  | some descriptions => (descriptions.mapM GridDescription.grid).mapError .fault

end Source

private def system (text : String) : Except CommandError (Crs Float) :=
  ((Crs.ofText text).mapError Error.crs).mapError .fault

private def geometryIn (source : Source) (crs : Crs Float) :
    Except CommandError (Geometry Float) := do
  let shape ← (Shape.ofGeoJson (← source.json)).mapError .fault
  return ⟨shape, some crs⟩

def coveringGrid (source : Source) (crs : String) (resolution : AxisPair Float)
    (target : Option String) (alignment : Option (AxisPair Float)) :
    Except CommandError (GridDescription Float) := do
  let g ← geometryIn source (← system crs)
  let target ← target.mapM system
  let grid ← (Grid.ofGeometry g resolution target alignment).mapError .fault
  return grid.description

def combinedGrid (combine : List (Grid Float) → Except (Error Float) (Grid Float))
    (source : Source) : Except CommandError (GridDescription Float) := do
  let grid ← (combine (← source.grids)).mapError .fault
  return grid.description

def reprojected (source : Source) (origin target : String) (options : ReprojectOptions Float) :
    Except CommandError (Json Float) := do
  let origin ← system origin
  let target ← system target
  let g ← geometryIn source origin
  let h ← (g.toCrs target options).mapError .fault
  return h.shape.toGeoJson

inductive Command where
  | cover (file crs : String) (resolution : AxisPair Float) (target : Option String)
    (alignment : Option (AxisPair Float))
  | union (file : String)
  | intersection (file : String)
  | reproject (file origin target : String) (options : ReprojectOptions Float)

namespace Command

def file : Command → String
  | cover file _ _ _ _ => file
  | union file => file
  | intersection file => file
  | reproject file _ _ _ => file

/-- The value that a command gives for the contents of its file; coordinates are read quickly. -/
def run (command : Command) (contents : Option String) : Except CommandError (Json Float) :=
  let source : Source := ⟨command.file, contents, .quick⟩
  match command with
  | cover _ crs resolution target alignment =>
    (coveringGrid source crs resolution target alignment).map (·.toJson)
  | union _ => (combinedGrid Grid.unionAll source).map (·.toJson)
  | intersection _ => (combinedGrid Grid.intersectionAll source).map (·.toJson)
  | reproject _ origin target options => reprojected source origin target options

end Command

end Graticule.CommandLine
