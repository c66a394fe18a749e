import Graticule.Affine
import Graticule.Crs.Error
import Graticule.Decimal.Reader
import Graticule.Json.Printer

/-!
# Faults

Every operation on reference systems, grids and geometry that can fail gives one of these causes.
`Error.kind` sorts the causes into seven kinds with stable names, and `Error.message` words them.
-/

namespace Graticule

/-- Why an operation failed, with the scalars and values that were at fault. -/
inductive Error (α : Type) where
  /-- An identifier names no reference system. -/
  | crs (cause : CrsError)
  /-- A geometry has no reference system where one is needed. -/
  | geometryWithoutCrs
  /-- Two operands have different reference systems. -/
  | crsMismatch (left right : String)
  /-- A grid would be turned or sheared. -/
  | notAxisAligned (t : Affine α)
  /-- An affine map has no inverse. -/
  | singular (t : Affine α)
  /-- The map of a reference grid has no inverse. -/
  | singularReference (t : Affine α)
  /-- A grid is not the reference grid moved by whole pixels. -/
  | offLattice (t reference : Affine α)
  /-- An operation on several grids was given none. -/
  | noGrids (operation : String)
  /-- A pixel size is zero or not finite. -/
  | badResolution (y x : α)
  /-- The offset of the pixel edges is not within a pixel. -/
  | badAlignment (yoff xoff yres xres : α)
  /-- A factor of coarsening is not a finite number above one. -/
  | badScale (factor : α)
  /-- Rows or columns were selected with a step. -/
  | stepped (step : Int)
  /-- An operation on areas was given other shapes. -/
  | notAreal (operation left right : String)
  /-- A geometry without vertices has no envelope. -/
  | noEnvelope
  /-- A JSON value has no type. -/
  | untyped
  /-- A feature has no geometry. -/
  | featureWithoutGeometry
  /-- A collection has no list of members. -/
  | collectionWithoutMembers
  /-- A typed value has no coordinates. -/
  | withoutCoordinates (kind : String)
  /-- A type is not one of geometry. -/
  | unknownKind (kind : String)
  /-- A value is not an array. -/
  | notAnArray (value : Json α)
  /-- A value does not start with two numbers. -/
  | badPosition (value : Json α)

inductive ErrorKind where
  | invalidCrs
  | crsMismatch
  | invalidGrid
  | incompatibleGrid
  | input
  | unsupported
  | invalidGeometry
deriving BEq, DecidableEq, Repr

namespace ErrorKind

def name : ErrorKind → String
  | invalidCrs => "InvalidCRS"
  | crsMismatch => "CRSMismatch"
  | invalidGrid => "InvalidGrid"
  | incompatibleGrid => "IncompatibleGrid"
  | input => "InputError"
  | unsupported => "NotImplemented"
  | invalidGeometry => "InvalidGeometry"

end ErrorKind

namespace Error

def kind {α : Type} : Error α → ErrorKind
  | crs _ | geometryWithoutCrs => .invalidCrs
  | crsMismatch _ _ => .crsMismatch
  | notAxisAligned _ | singular _ => .invalidGrid
  | singularReference _ | offLattice _ _ => .incompatibleGrid
  | noGrids _ | badResolution _ _ | badAlignment _ _ _ _ | badScale _ => .input
  | stepped _ | notAreal _ _ _ => .unsupported
  | noEnvelope | untyped | featureWithoutGeometry | collectionWithoutMembers
  | withoutCoordinates _ | unknownKind _ | notAnArray _ | badPosition _ => .invalidGeometry

private def pairText (x y : Float) : String :=
  "(" ++ Written.text x ++ ", " ++ Written.text y ++ ")"

private def detail : Error Float → String
  | crs cause => cause.message
  | geometryWithoutCrs => "geometry has no CRS"
  | crsMismatch left right => left ++ " vs " ++ right
  | notAxisAligned t => "only axis-aligned transforms are supported, got " ++ t.text
  | singular t => "singular affine transform " ++ t.text
  | singularReference t => "reference transform " ++ t.text ++ " has no inverse"
  | offLattice t reference =>
    t.text ++ " is not a whole-pixel translation of " ++ reference.text
  | noGrids operation => "cannot compute " ++ operation ++ " of no grids"
  | badResolution y x => "resolution must be finite and nonzero, got " ++ pairText y x
  | badAlignment yoff xoff yres xres =>
    "alignment " ++ pairText yoff xoff ++ " must be between 0 and the resolution "
      ++ pairText yres xres
  | badScale factor => "scaler must be greater than 1, got " ++ Written.text factor
  | stepped step => "grid slicing with step " ++ toString step
  | notAreal operation left right => operation ++ " of " ++ left ++ " and " ++ right
  | noEnvelope => "empty geometry has no envelope"
  | untyped => "missing \"type\""
  | featureWithoutGeometry => "feature has no geometry"
  | collectionWithoutMembers => "collection has no \"geometries\""
  | withoutCoordinates kind => kind ++ " has no \"coordinates\""
  | unknownKind kind => "unknown geometry type " ++ kind
  | notAnArray value => "expected an array, got " ++ value.compact
  | badPosition value => "bad position " ++ value.compact

private def heading : ErrorKind → String
  | .invalidCrs => "Invalid CRS: "
  | .crsMismatch => "CRS mismatch: "
  | .invalidGrid => "Invalid grid: "
  | .incompatibleGrid => "Incompatible grids: "
  | .input => "Invalid input: "
  | .unsupported => "Unsupported operation: "
  | .invalidGeometry => "Invalid geometry: "

def message (e : Error Float) : String := heading e.kind ++ e.detail

end Error

namespace Affine

/-- The inverse map, or the fault that there is none. -/
def inverse {α : Type} [Scalar α] (t : Affine α) : Except (Error α) (Affine α) :=
  match t.inverse? with
  | some u => .ok u
  | none => .error (.singular t)

end Affine

end Graticule
