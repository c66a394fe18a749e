import Graticule.Crs.Error
import Graticule.Crs.WellKnownText
import Graticule.Projection.Catalogue

/-!
# Definitions of reference systems

A text defines a reference system: it is a registered code, the parameters of a projection, or
well-known text.  The text itself becomes the identifier of the system.
-/

namespace Graticule

/-- What is known of a reference system. -/
structure CrsDefinition (α : Type) where
  /-- The text that defines the system. -/
  identifier : String
  /-- The registered code. -/
  code : Option Nat
  name : String
  projection : Projection α

namespace CrsDefinition

variable {α : Type}

/-- The code in `EPSG:n`, `CRS:84` or `OGC:CRS84`, in any case. -/
def authorityCode? (cs : List Char) : Option Nat :=
  let cs := Text.upper cs
  if cs = "CRS:84".toList ∨ cs = "OGC:CRS84".toList then some 4326
  else (Text.dropFront? "EPSG:".toList cs).bind fun rest => WellKnownText.code? (Text.trim rest)

variable [Elementary α] [Written α]

def registered (identifier : String) (code : Nat) : Except CrsError (CrsDefinition α) :=
  match Registration.find code with
  | .ok r => .ok ⟨identifier, some r.code, r.name, r.projection⟩
  | .error e => .error (.projection e)

def ofText (s : String) : Except CrsError (CrsDefinition α) :=
  let trimmed := Text.trim s.toList
  match authorityCode? trimmed with
  | some code => registered s code
  | none =>
    let t := String.ofList trimmed
    if Projection.isDescribedBy t then
      match Projection.ofText t with
      | .ok p => .ok ⟨s, none, "unknown (" ++ p.method ++ ")", p⟩
      | .error e => .error (.projection e)
    else if WellKnownText.isWellKnownText t then
      match WellKnownText.rootCode? t with
      | some code => registered s code
      | none => .error .noRootIdentifier
    else .error (.unknownIdentifier s)

end CrsDefinition

end Graticule
