/-!
# Faults in the description of a projection
-/

namespace Graticule

inductive ProjectionError where
  /-- No projection is registered under the code. -/
  | unknownCode (code : Nat)
  /-- The method is not one of the library. -/
  | unknownMethod (name : String)
  /-- A stereographic plane that lies at neither pole. -/
  | obliqueStereographic
  /-- A parameter that the method needs is absent. -/
  | missingParameter (name : String)
  /-- The value of a parameter is not a number. -/
  | malformedParameter (name value : String)
  /-- No ellipsoid has the name. -/
  | unknownEllipsoid (name : String)
deriving BEq, Repr

namespace ProjectionError

def kind : ProjectionError → String
  | unknownCode _ => "UnsupportedEpsg"
  | unknownMethod _ => "UnsupportedProjection"
  | obliqueStereographic => "UnsupportedProjection"
  | missingParameter _ => "MissingParameter"
  | malformedParameter _ _ => "InvalidParameter"
  | unknownEllipsoid _ => "UnknownEllipsoid"

def message : ProjectionError → String
  | unknownCode code => "Unsupported EPSG code: " ++ toString code
  | unknownMethod name => "Unsupported projection: " ++ name
  | obliqueStereographic =>
    "Unsupported projection: oblique stereographic (only polar aspects are supported)"
  | missingParameter name => "Missing projection parameter '" ++ name ++ "'"
  | malformedParameter name value =>
    "Invalid value for projection parameter '" ++ name ++ "': " ++ value
  | unknownEllipsoid name => "Unknown ellipsoid: " ++ name

end ProjectionError

end Graticule
