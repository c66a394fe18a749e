import Graticule.Affine
import Graticule.Angle
import Graticule.AxisPair
import Graticule.Binary64.Arithmetic
import Graticule.Binary64.Basic
import Graticule.Binary64.Determinant
import Graticule.Binary64.Expansion
import Graticule.Binary64.Scalar
import Graticule.Box
import Graticule.CommandLine.Arguments
import Graticule.CommandLine.Command
import Graticule.CommandLine.Program
import Graticule.CommandLine.Settings
import Graticule.CommandLine.Values
import Graticule.Crs.Basic
import Graticule.Crs.Cache
import Graticule.Crs.Definition
import Graticule.Crs.Error
import Graticule.Crs.WellKnownText
import Graticule.Decimal.Basic
import Graticule.Decimal.Quick
import Graticule.Decimal.Reader
import Graticule.Decimal.Rounded
import Graticule.Decimal.Shortest
import Graticule.Ellipsoid
import Graticule.Error
import Graticule.Geometry.Antimeridian
import Graticule.Geometry.Basic
import Graticule.Geometry.GeoJson
import Graticule.Geometry.Measure
import Graticule.Geometry.NormalForm
import Graticule.Geometry.ReprojectOptions
import Graticule.Geometry.Reprojection
import Graticule.Geometry.Segmentation
import Graticule.Geometry.Shape
import Graticule.Grid.Basic
import Graticule.Grid.Cover
import Graticule.Grid.Description
import Graticule.Grid.Footprint
import Graticule.Grid.Labels
import Graticule.Grid.Lattice
import Graticule.Grid.Resize
import Graticule.Grid.Span
import Graticule.Json.Basic
import Graticule.Json.Printer
import Graticule.Json.Reader
import Graticule.Json.Syntax
import Graticule.Main
import Graticule.PixelAxis
import Graticule.Planar.Arrangement
import Graticule.Planar.Basic
import Graticule.Planar.Binary64
import Graticule.Planar.Clipping
import Graticule.Planar.Contact
import Graticule.Planar.Crossing
import Graticule.Planar.Extent
import Graticule.Planar.Figure
import Graticule.Planar.Overlay
import Graticule.Planar.Place
import Graticule.Planar.Relation
import Graticule.Planar.Site
import Graticule.Planar.Star
import Graticule.Position
import Graticule.Power
import Graticule.Projection.Basic
import Graticule.Projection.Catalogue
import Graticule.Projection.Definition
import Graticule.Projection.Error
import Graticule.Projection.LambertConformal
import Graticule.Projection.Mercator
import Graticule.Projection.PolarStereographic
import Graticule.Rounding
import Graticule.Scalar
import Graticule.Text.Alphanumeric
import Graticule.Text.Blank
import Graticule.Text.Hexadecimal
import Graticule.Text.Quoted
import Graticule.Text.Search
import Graticule.Text.Shown
import Graticule.Tolerance
import Graticule.Yaml.Cursor
import Graticule.Yaml.Node
import Graticule.Yaml.Token
import Graticule.Yaml.Token.Lexer
import Graticule.Yaml.Token.Scalar
import Graticule.Yaml.Token.Tag
import Graticule.Yaml.Value
import Graticule.Proofs.Affine
import Graticule.Proofs.Grid.Window
import Graticule.Proofs.Grid.Lattice
import Graticule.Proofs.Grid.Derivation
import Graticule.Proofs.Grid.Union
import Graticule.Proofs.Grid.Intersection
import Graticule.Proofs.Grid.Frame
import Graticule.Proofs.Grid.Grouping
import Graticule.Proofs.Grid.Absorption
import Graticule.Proofs.Grid.Drift
import Graticule.Proofs.Grid.Exchange
import Graticule.Proofs.Grid.Growth
import Graticule.Proofs.Grid.Shrinking
import Graticule.Proofs.Scalar.Extended
import Graticule.Proofs.Scalar.Real
import Graticule.Proofs.Geometry.Envelope
import Graticule.Proofs.PixelAxis
import Graticule.Proofs.Grid.Cover
import Graticule.Proofs.Grid.Recovery
import Graticule.Proofs.Geometry.Vertices
import Graticule.Proofs.Geometry.GeoJson
import Graticule.Proofs.Planar.EvenOdd
import Graticule.Proofs.Geometry.HalfPlane
import Graticule.Proofs.Geometry.Antimeridian
import Graticule.Proofs.Planar.Monotone
import Graticule.Proofs.Planar.Winding
import Graticule.Proofs.Planar.Place
import Graticule.Proofs.Planar.Contact
import Graticule.Proofs.Planar.Region
import Graticule.Proofs.Planar.Graph
import Graticule.Proofs.Geometry.Strip
import Graticule.Proofs.Geometry.Border
import Graticule.Proofs.Geometry.Reach
import Graticule.Proofs.Angle
import Graticule.Proofs.Projection.ConeConstant
import Graticule.Proofs.Projection.Sphere
import Graticule.Proofs.Projection.Cone
import Graticule.Proofs.Projection.Inverse
import Graticule.Proofs.Projection.Words
import Graticule.Proofs.Projection.Text
import Graticule.Proofs.Scalar.Comparable
import Graticule.Proofs.Projection.Numbers
import Graticule.Proofs.Projection.Recovery
import Graticule.Proofs.Crs.Definition
import Graticule.Proofs.Crs.Text
import Graticule.Proofs.Crs.Cache
import Graticule.Proofs.Crs.Equality
import Graticule.Proofs.Crs.Congruence
import Graticule.Proofs.Crs.WellKnownText.Tag
import Graticule.Proofs.Crs.WellKnownText.Syntax
import Graticule.Proofs.Crs.WellKnownText.Identifier
import Graticule.Proofs.Crs.WellKnownText.Reading
import Graticule.Proofs.Crs.WellKnownText.Root
import Graticule.Proofs.Crs.WellKnownText.Rendering
import Graticule.Proofs.Grid.Slicing
import Graticule.Proofs.Geometry.Correspondence
import Graticule.Proofs.Geometry.Segmentation
import Graticule.Proofs.Geometry.SegmentedMeasures
import Graticule.Proofs.Geometry.Reprojection
import Graticule.Proofs.Geometry.Grammar
import Graticule.Proofs.Projection.Latitude
import Graticule.Proofs.Projection.Ellipsoid
import Graticule.Proofs.Projection.LatitudeRecovery
import Graticule.Proofs.Projection.TrueScale
import Graticule.Proofs.Geometry.Smoothness
import Graticule.Proofs.Box.Image
import Graticule.Proofs.Grid.Footprint
import Graticule.Proofs.Projection.Description
import Graticule.Proofs.Projection.Figure
import Graticule.Proofs.Scalar.Guarded
import Graticule.Proofs.Projection.Division
import Graticule.Proofs.Projection.Regularity
import Graticule.Proofs.Projection.Soundness
import Graticule.Proofs.Affine.Composition
import Graticule.Proofs.Box.Collection
import Graticule.Proofs.Geometry.Combination
import Graticule.Proofs.Grid.Coarsening
import Graticule.Proofs.PixelAxis.Symmetry
import Graticule.Proofs.Angle.Turns
import Graticule.Proofs.Projection.Wrapping
