import Graticule.Binary64.Scalar
import Graticule.Grid.Basic
import Graticule.Json.Reader
import Graticule.Yaml.Value

/-!
# Descriptions of grids

A grid is described by its size, the coefficients of its map and the identifier of its reference
system.  `Grid.description` describes a grid and `GridDescription.build` builds the grid described.
-/

namespace Graticule

/-- The size, map and reference system of a grid, none of them checked. -/
structure GridDescription (α : Type) where
  width : Nat
  height : Nat
  affine : Affine α
  crs : String
deriving BEq, Repr

namespace GridDescription

variable {α : Type}

/-- The grid described, and the cache after its reference system was asked for; a fault of the
reference system counts before one of the map. -/
def build [Elementary α] [Written α] (d : GridDescription α) (cache : CrsCache α) :
    Except (Error α) (Grid α) × CrsCache α :=
  match cache.resolve d.crs with
  | (.ok crs, cache) => (Grid.make d.width d.height d.affine crs, cache)
  | (.error cause, cache) => (.error (.crs cause), cache)

/-- The grid described; a cache that is kept gives the same. -/
def grid [Elementary α] [Written α] (d : GridDescription α) : Except (Error α) (Grid α) :=
  (d.build .empty).1

variable [Scalar α]

def toJson (d : GridDescription α) : Json α :=
  .object
    [ ("affine", .array (d.affine.coefficients.map .ofScalar)),
      ("crs", .string d.crs),
      ("height", .integer d.height),
      ("width", .integer d.width) ]

def affineOfJson? (v : Json α) : Option (Affine α) := do
  Affine.ofCoefficients? (← (← v.array?).mapM Json.number?)

private def ofParts? : List (Json α) → Option (GridDescription α)
  | [width, height, affine, crs] => do
    return ⟨← width.natural?, ← height.natural?, ← affineOfJson? affine, ← crs.string?⟩
  | _ => none

def parts : List String := ["width", "height", "affine", "crs"]

/-- The value of a member that is there exactly once. -/
private def single? (members : List (String × Json α)) (name : String) : Option (Json α) :=
  match members.filter (·.1 == name) with
  | [member] => some member.2
  | _ => none

/-- The description in an object that has every part once, or in an array of the parts. -/
def ofJson? : Json α → Option (GridDescription α)
  | .object members => do ofParts? (← parts.mapM (single? members))
  | .array items => ofParts? items
  | _ => none

/-- The description that a JSON text writes; of an object only the members that are parts count. -/
def ofJsonText? (text : String) : Option (GridDescription Float) := do
  ofJson? (← Json.readRecord? parts text)

def affineOfYaml? (d : Yaml.Document) (v : Yaml.Node) : Option (Affine Float) := do
  Affine.ofCoefficients? (← (← d.items? v).mapM d.number?)

def ofYaml? (d : Yaml.Document) (v : Yaml.Node) : Option (GridDescription Float) := do
  match ← parts.mapM (d.named? (← d.members? v)) with
  | [[width], [height], [affine], [crs]] =>
    return ⟨← d.natural? width, ← d.natural? height, ← affineOfYaml? d affine, ← d.text? crs⟩
  | _ => none

/-- The nodes that are read for a description: the mapping, its names, and the values of the parts
and what is in them. -/
private def nodesRead (d : Yaml.Document) (v : Yaml.Node) : List Yaml.Node :=
  let members := (d.members? v).getD []
  let values := (members.filter fun m => (d.text? m.1).any parts.contains).map (·.2)
  v :: members.map (·.1) ++ values ++ values.flatMap fun w => (d.items? w).getD []

def ofYamlText? (text : String) : Option (GridDescription Float) := do
  let d ← Yaml.Document.ofText? text
  let root ← d.root
  if d.allows (nodesRead d root) then ofYaml? d root else none

/-- The descriptions in the sequence that a YAML text writes; nothing is an empty sequence. -/
def listOfYamlText? (text : String) : Option (List (GridDescription Float)) := do
  let d ← Yaml.Document.ofText? text
  let items ← d.items? (d.root.getD .empty)
  if d.allows (items.flatMap (nodesRead d)) then items.mapM (ofYaml? d) else none

end GridDescription

namespace Grid

def description {α : Type} [Scalar α] (g : Grid α) : GridDescription α :=
  ⟨g.width, g.height, g.affine, g.crs.identifier⟩

end Grid

end Graticule
