import Graticule.Projection.Basic
import Graticule.Projection.Error
import Graticule.Text.Blank
import Graticule.Text.Search

/-!
# Projections as text

A projection is written as parameters `+name=value` with blanks between them.  `Projection.text`
writes one and `Projection.ofText` reads it.  When a parameter is given more than once the last one
counts, and parameters that the method does not know are passed over.
-/

namespace Graticule

abbrev Definition := List (String × String)

namespace Definition

def parameterText (parameter : String × String) : String :=
  "+" ++ parameter.1 ++ "=" ++ parameter.2

def text (d : Definition) : String :=
  " ".intercalate (d.map parameterText)

/-- The parameter in a word; a word without `=` names a parameter without a value. -/
def parameter? (word : List Char) : Option (String × String) :=
  match word.dropWhile (· == '+') with
  | [] => none
  | cs =>
    match Text.splitFirst? '=' cs with
    | some (name, value) => some (String.ofList name, String.ofList value)
    | none => some (String.ofList cs, "")

def ofText (s : String) : Definition :=
  (Text.words s.toList).filterMap parameter?

def get? (d : Definition) (name : String) : Option String :=
  d.reverse.lookup name

variable {α : Type} [Written α]

/-- The number that a parameter gives, if the parameter is there. -/
def number? (d : Definition) (name : String) : Except ProjectionError (Option α) :=
  match d.get? name with
  | none => .ok none
  | some value =>
    match Written.ofText? value with
    | some x => .ok (some x)
    | none => .error (.malformedParameter name value)

/-- The number that a parameter gives, or another one if the parameter is not there. -/
def numberOr (d : Definition) (name : String) (default : α) : Except ProjectionError α :=
  (d.number? name).map (·.getD default)

variable [Scalar α]

/-- The ellipsoid by its radius, else by its axis with its flattening or second axis, else by its
name, else by its datum, else that of the World Geodetic System. -/
def ellipsoid (d : Definition) : Except ProjectionError (Ellipsoid α) := do
  if let some radius ← d.number? "R" then
    return .sphere radius
  if let some a ← d.number? "a" then
    if let some rf ← d.number? "rf" then
      return ⟨a, if rf == 0 then 0 else 1 / rf⟩
    if let some b ← d.number? "b" then
      return ⟨a, (a - b) / a⟩
    return .sphere a
  match d.get? "ellps" <|> d.get? "datum" with
  | some name =>
    match Ellipsoid.named? name with
    | some e => return e
    | none => throw (.unknownEllipsoid name)
  | none => return .wgs84

end Definition

namespace Projection

variable {α : Type} [Elementary α] [Written α]

/-- A central meridian, then a true parallel or a scale. -/
def mercatorOf (d : Definition) (e : Ellipsoid α) :
    Except ProjectionError (Mercator α) := do
  let lon0 ← d.numberOr "lon_0" 0
  let falseEasting ← d.numberOr "x_0" 0
  let falseNorthing ← d.numberOr "y_0" 0
  let k0 ← match ← d.number? "lat_ts" with
    | some latTs => pure (Mercator.scaleOfParallel e latTs)
    | none => do
      let other ← d.numberOr "k_0" 1
      d.numberOr "k" other
  return .ofDegrees e lon0 k0 falseEasting falseNorthing

/-- How far from a pole the origin of a polar projection may lie, in degrees. -/
def polarTolerance : α := 1e-10

/-- A pole, then a true parallel and a straight meridian. -/
def polarStereographicOf (d : Definition) (e : Ellipsoid α) :
    Except ProjectionError (PolarStereographic α) := do
  let lat0 : α ← d.numberOr "lat_0" 90
  if polarTolerance < Scalar.abs (Scalar.abs lat0 - 90) then
    throw .obliqueStereographic
  let latTs ← d.numberOr "lat_ts" lat0
  let lon0 ← d.numberOr "lon_0" 0
  let falseEasting ← d.numberOr "x_0" 0
  let falseNorthing ← d.numberOr "y_0" 0
  return .ofDegrees e (lat0 < 0) latTs lon0 falseEasting falseNorthing

/-- One or two true parallels, then the origin. -/
def lambertConformalOf (d : Definition) (e : Ellipsoid α) :
    Except ProjectionError (LambertConformal α) := do
  let some lat1 ← d.number? "lat_1" | throw (.missingParameter "lat_1")
  let lat2 ← d.numberOr "lat_2" lat1
  let lat0 ← d.numberOr "lat_0" lat1
  let lon0 ← d.numberOr "lon_0" 0
  let falseEasting ← d.numberOr "x_0" 0
  let falseNorthing ← d.numberOr "y_0" 0
  return .ofDegrees lat0 lon0 lat1 lat2 e.a falseEasting falseNorthing

def ofDefinition (d : Definition) : Except ProjectionError (Projection α) := do
  let some method := d.get? "proj" | throw (.missingParameter "proj")
  let e ← d.ellipsoid
  match method with
  | "longlat" | "latlong" | "lonlat" | "latlon" => return .longLat e
  | "merc" => .mercator <$> mercatorOf d e
  | "stere" => .polarStereographic <$> polarStereographicOf d e
  | "lcc" => .lambertConformal <$> lambertConformalOf d e
  | other => throw (.unknownMethod other)

def ofText (s : String) : Except ProjectionError (Projection α) :=
  ofDefinition (Definition.ofText s)

/-- A sphere by its radius, any other ellipsoid by its axis and flattening. -/
def ellipsoidParameters (e : Ellipsoid α) : Definition :=
  if e.isSphere then [("R", Written.text e.a)]
  else [("a", Written.text e.a), ("rf", Written.text e.inverseFlattening)]

def originParameters (falseEasting falseNorthing : α) : Definition :=
  [("x_0", Written.text falseEasting), ("y_0", Written.text falseNorthing)]

def definition (p : Projection α) : Definition :=
  let angle (x : α) := Written.text (Angle.degrees x)
  ("proj", p.method) :: (match p with
    | longLat _ => []
    | mercator m =>
      [("lon_0", angle m.lon0), ("k", Written.text m.k0)]
        ++ originParameters m.falseEasting m.falseNorthing
    | polarStereographic s =>
      [("lat_0", if s.south then "-90" else "90"), ("lat_ts", angle s.latTs),
          ("lon_0", angle s.lon0)]
        ++ originParameters s.falseEasting s.falseNorthing
    | lambertConformal c =>
      [("lat_0", angle c.lat0), ("lon_0", angle c.lon0), ("lat_1", angle c.lat1),
          ("lat_2", angle c.lat2)]
        ++ originParameters c.falseEasting c.falseNorthing) ++ ellipsoidParameters p.ellipsoid

def text (p : Projection α) : String :=
  p.definition.text

def isDescribedBy (s : String) : Bool :=
  let cs := Text.trimStart s.toList
  (Text.dropFront? "+proj=".toList cs).isSome || (Text.dropFront? "proj=".toList cs).isSome

end Projection

end Graticule
