import Graticule.Grid.Basic
import Graticule.Grid.Span
import Graticule.PixelAxis

/-!
# Grids of another size

Selecting rows and columns, growing or shrinking by whole pixels, and coarser pixels over the same
area.
-/

namespace Graticule.Grid

variable {α : Type} [Scalar α]

/-- The map of a grid that starts a number of columns and rows later. -/
def shifted (t : Affine α) (columns rows : Int) : Affine α :=
  t * .translation (Scalar.ofInt columns) (Scalar.ofInt rows)

def crop (g : Grid α) (region : Region) : Except (Error α) (Grid α) := do
  let (row, height) ← region.rows.resolve g.height
  let (column, width) ← region.columns.resolve g.width
  make width height (shifted g.affine column row) g.crs

/-- A number of pixels after `b` more on either side; never less than none. -/
def grow (n : Nat) (b : Int) : Nat := (n + 2 * b).toNat

/-- The grid with enough whole pixels more on each side to reach the given distances up to the
slack; negative distances shrink it. -/
def buffered (g : Grid α) (distance : AxisPair α) : Except (Error α) (Grid α) :=
  let rows := PixelAxis.pixelsFor distance.y g.resolution.y
  let columns := PixelAxis.pixelsFor distance.x g.resolution.x
  make (grow g.width columns) (grow g.height rows) (shifted g.affine (-columns) (-rows)) g.crs

/-- The number of pixels that cover `n` pixels when each is `factor` times as long. -/
def coarser (factor : α) (n : Nat) : Nat :=
  Scalar.toNat (Scalar.ceil (Scalar.ofNat n / factor))

/-- The grid from the same origin with pixels `factor` times as long; partial pixels at the far
edges are kept. -/
def scaledDown (g : Grid α) (factor : α) : Except (Error α) (Grid α) :=
  if Scalar.isFinite factor && decide (1 < factor) then
    make (coarser factor g.width) (coarser factor g.height) (g.affine * .scale factor factor) g.crs
  else .error (.badScale factor)

end Graticule.Grid
