import Graticule.Crs.Basic
import Graticule.Binary64.Scalar
import Graticule.Json.Reader

/-!
# Options of reprojection

How finely a geometry is segmented before it is reprojected, and whether it is cut at the
antimeridian.
-/

namespace Graticule

structure ReprojectOptions (α : Type) where
  /-- The longest edge in the source system; without one it depends on the source system. -/
  resolution : Option α
  /-- Whether the geometry is cut at the antimeridian when the target is geographic. -/
  wrapDateline : Bool
deriving BEq, Repr

namespace ReprojectOptions

variable {α : Type}

def default : ReprojectOptions α := ⟨none, false⟩

variable [Scalar α]

/-- The longest edge in degrees. -/
def geographicResolution : α := 1

/-- The longest edge in metres. -/
def projectedResolution : α := 100000

def resolutionFor (options : ReprojectOptions α) (source : Crs α) : α :=
  options.resolution.getD
    (if source.isGeographic then geographicResolution else projectedResolution)

/-- A number, or no number for `null`. -/
private def optionalNumber? : Json α → Option (Option α)
  | .null => some none
  | v => v.number?.map some

/-- Options changed by one of the two values, by its place. -/
private def withPart? (options : ReprojectOptions α) (place : Nat) (v : Json α) :
    Option (ReprojectOptions α) :=
  match place with
  | 0 => (optionalNumber? v).map fun resolution => ⟨resolution, options.wrapDateline⟩
  | 1 => v.bool?.map fun wrap => ⟨options.resolution, wrap⟩
  | _ => none

private def atMostOnce? (members : List (String × Json α)) (name : String) :
    Option (Option (Json α)) :=
  match members.filter (·.1 == name) with
  | [] => some none
  | [member] => some (some member.2)
  | _ => none

def parts : List String := ["resolution", "wrap_dateline"]

/-- The options in an object, absent members being as by default, or in an array of the values in
order. -/
def ofJson? : Json α → Option (ReprojectOptions α)
  | .object members => do
    let values ← parts.mapM (atMostOnce? members)
    values.zipIdx.foldlM (fun options (part, place) =>
      match part with
      | some v => options.withPart? place v
      | none => some options) default
  | .array items =>
    items.zipIdx.foldlM (fun options (v, place) => options.withPart? place v) default
  | _ => none

/-- The options that a JSON text writes; of an object only the members that are parts count. -/
def ofJsonText? (text : String) : Option (ReprojectOptions Float) := do
  ofJson? (← Json.readRecord? parts text)

end ReprojectOptions

end Graticule
