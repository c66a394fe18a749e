import Graticule.AxisPair
import Graticule.Crs.Cache
import Graticule.Text.Quoted

/-!
# Coordinate reference systems

Two systems are the same when they share one definition in memory, when both have the same
registered code, or when one has no code and their projections agree.
-/

namespace Graticule

/-- What identifies a reference system; the first that is there counts. -/
structure CrsSource where
  identifier : Option String
  code : Option Nat
  wellKnownText : Option String

namespace Crs

variable {α : Type}

/-- The coordinates are degrees. -/
def isGeographic (c : Crs α) : Bool := c.projection.isGeographic

def dimensions (c : Crs α) : AxisPair String :=
  if c.isGeographic then ⟨"latitude", "longitude"⟩ else ⟨"y", "x"⟩

def units (c : Crs α) : AxisPair String :=
  if c.isGeographic then ⟨"degrees_north", "degrees_east"⟩
  else ⟨c.projection.axisUnit, c.projection.axisUnit⟩

def transformerTo (c d : Crs α) : Transformer α := ⟨c.projection, d.projection⟩

def same [BEq α] (c d : Crs α) : Bool :=
  c.isSharedWith d ||
    match c.code, d.code with
    | some m, some n => m == n
    | _, _ => c.projection == d.projection

instance [BEq α] : BEq (Crs α) := ⟨same⟩

def text (c : Crs α) : String := "Crs(" ++ Text.quote c.identifier ++ ")"

def identifierOfCode (code : Nat) : String := "EPSG:" ++ toString code

variable [Elementary α] [Written α]

/-- The system that a text identifies; a cache that is kept gives the same. -/
def ofText (s : String) : Except CrsError (Crs α) := (CrsCache.empty.resolve s).1

def isIdentifiedBy (c : Crs α) (s : String) : Bool :=
  match ofText s with
  | .ok d => c == d
  | .error _ => false

def ofCode (code : Nat) : Except CrsError (Crs α) := ofText (identifierOfCode code)

def ofWellKnownText (s : String) : Except CrsError (Crs α) :=
  if WellKnownText.isWellKnownText s then ofText s else .error (.notWellKnownText s)

def wellKnownText? (c : Crs α) : Option String :=
  c.code.map fun code => WellKnownText.render code c.name c.projection

def source (c : Crs α) : CrsSource := ⟨some c.identifier, c.code, c.wellKnownText?⟩

end Crs

namespace CrsSource

/-- The identifier, else that of the code, else the well-known text. -/
def identifier? (s : CrsSource) : Option String :=
  s.identifier <|> s.code.map Crs.identifierOfCode <|> s.wellKnownText

def crs {α : Type} [Elementary α] [Written α] (s : CrsSource) : Except CrsError (Crs α) :=
  match s.identifier? with
  | some text => Crs.ofText text
  | none => .error .noIdentifier

end CrsSource

end Graticule
