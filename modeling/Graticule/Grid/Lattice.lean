import Graticule.Box
import Graticule.Grid.Basic

/-!
# Grids on one lattice

Two grids lie on one lattice when one is the other moved by whole pixels.  In the pixel coordinates
of a reference grid each of them is a box with whole sides, and unions and intersections of grids
are those of their boxes.
-/

namespace Graticule.Grid

variable {α : Type} [Scalar α]

def wholePixelTolerance : α := 1e-8

/-- A map between pixel coordinates is a shift by whole pixels, up to a tolerance. -/
def isWholeShift (t : Affine α) : Bool :=
  Scalar.isClose t.a 1 && Scalar.isClose t.b 0 && Scalar.isClose t.d 0 && Scalar.isClose t.e 1
    && Scalar.isNearlyWhole t.c wholePixelTolerance
    && Scalar.isNearlyWhole t.f wholePixelTolerance

/-- The box of a grid in the pixel coordinates of a reference grid. -/
def pixelBox (g reference : Grid α) : Except (Error α) (Box α) :=
  if !(reference.crs == g.crs) then
    .error (.crsMismatch reference.crs.identifier g.crs.identifier)
  else
    match reference.affine.inverse? with
    | none => .error (.singularReference reference.affine)
    | some inverse =>
      let relative := inverse * g.affine
      if isWholeShift relative then
        let tx := Scalar.round relative.c
        let ty := Scalar.round relative.f
        .ok ⟨tx, ty, tx + Scalar.ofNat g.width, ty + Scalar.ofNat g.height⟩
      else .error (.offLattice g.affine reference.affine)

/-- The number of pixels in a whole extent; none in a negative one. -/
def pixelsIn (extent : α) : Nat :=
  Scalar.toNat (Scalar.greatest (Scalar.round extent) 0)

/-- The grid of a box in the pixel coordinates of a reference grid. -/
def ofPixelBox (reference : Grid α) (b : Box α) : Except (Error α) (Grid α) :=
  make (pixelsIn b.width) (pixelsIn b.height)
    (reference.affine * .translation b.left b.bottom) reference.crs

def collapseInverted (b : Box α) : Box α where
  left := b.left
  bottom := b.bottom
  right := if b.right < b.left then b.left else b.right
  top := if b.top < b.bottom then b.bottom else b.top

/-- The boxes of a reference grid and of other grids, combined in the pixel coordinates of the
reference grid. -/
def combinedBox (combine : Box α → Box α → Box α) (reference : Grid α) (rest : List (Grid α)) :
    Except (Error α) (Box α) := do
  let b ← reference.pixelBox reference
  let bs ← rest.mapM (·.pixelBox reference)
  return bs.foldl combine b

/-- The box that a reference grid has in common with other grids; it is never inverted. -/
def commonBox (reference : Grid α) (rest : List (Grid α)) : Except (Error α) (Box α) :=
  collapseInverted <$> combinedBox Box.meet reference rest

/-- The smallest grid, on the lattice of the first, that covers every grid of a list. -/
def unionAll : List (Grid α) → Except (Error α) (Grid α)
  | [] => .error (.noGrids "union")
  | reference :: rest => do reference.ofPixelBox (← combinedBox Box.join reference rest)

/-- The largest grid, on the lattice of the first, inside every grid of a list; it has no pixels
when there is none in common. -/
def intersectionAll : List (Grid α) → Except (Error α) (Grid α)
  | [] => .error (.noGrids "intersection")
  | reference :: rest => do reference.ofPixelBox (← commonBox reference rest)

def union (g h : Grid α) : Except (Error α) (Grid α) := unionAll [g, h]

def intersection (g h : Grid α) : Except (Error α) (Grid α) := intersectionAll [g, h]

end Graticule.Grid
