import Graticule.Projection.Error

/-!
# Faults in the identification of a reference system
-/

namespace Graticule

inductive CrsError where
  /-- The identifier names or describes a projection that is not available. -/
  | projection (cause : ProjectionError)
  /-- The text is no identifier of any form. -/
  | unknownIdentifier (text : String)
  /-- Well-known text was asked for and this is none. -/
  | notWellKnownText (text : String)
  /-- The well-known text has no identifier at its root. -/
  | noRootIdentifier
  /-- Nothing identifies the reference system. -/
  | noIdentifier
deriving BEq, Repr

namespace CrsError

def message : CrsError → String
  | projection cause => cause.message
  | unknownIdentifier text => text
  | notWellKnownText text => "not WKT: " ++ text
  | noRootIdentifier => "WKT carries no EPSG root identifier"
  | noIdentifier => "source exposes no identifier, EPSG code or WKT"

end CrsError

end Graticule
