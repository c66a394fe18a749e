import Graticule.Affine

/-!
# Boxes

A box is given by its four sides and may be inverted.  `Box.hull` is the smallest box around several
boxes and `Box.overlap` the largest inside all of them; a side that is not a number is ignored.
-/

namespace Graticule

structure Box (α : Type) where
  left : α
  bottom : α
  right : α
  top : α
deriving BEq, Repr, Inhabited

namespace Box

variable {α : Type}

section
variable [Scalar α]

def width (b : Box α) : α := b.right - b.left

def height (b : Box α) : α := b.top - b.bottom

def isEmpty (b : Box α) : Bool := b.left == b.right || b.bottom == b.top

/-- Every side moved outward, by `dy` vertically and `dx` horizontally. -/
def buffered (b : Box α) (dy dx : α) : Box α :=
  ⟨b.left - dx, b.bottom - dy, b.right + dx, b.top + dy⟩

def corners (b : Box α) : List (Position α) :=
  [⟨b.left, b.bottom⟩, ⟨b.left, b.top⟩, ⟨b.right, b.bottom⟩, ⟨b.right, b.top⟩]

/-- The point halfway between opposite sides. -/
def centre (b : Box α) : Position α :=
  ⟨(b.left + b.right) / 2, (b.bottom + b.top) / 2⟩

def ofPosition (p : Position α) : Box α := ⟨p.x, p.y, p.x, p.y⟩

def join (b c : Box α) : Box α where
  left := Scalar.least b.left c.left
  bottom := Scalar.least b.bottom c.bottom
  right := Scalar.greatest b.right c.right
  top := Scalar.greatest b.top c.top

/-- The largest box inside two boxes; inverted when they are apart. -/
def meet (b c : Box α) : Box α where
  left := Scalar.greatest b.left c.left
  bottom := Scalar.greatest b.bottom c.bottom
  right := Scalar.least b.right c.right
  top := Scalar.least b.top c.top

end

section
variable [Unbounded α]

/-- The box that `join` ignores: every side at the far end. -/
def everted : Box α :=
  ⟨Unbounded.infinity, Unbounded.infinity, -Unbounded.infinity, -Unbounded.infinity⟩

/-- The box that `meet` ignores: the whole plane. -/
def plane : Box α :=
  ⟨-Unbounded.infinity, -Unbounded.infinity, Unbounded.infinity, Unbounded.infinity⟩

def hull (boxes : List (Box α)) : Box α := boxes.foldl join everted

def overlap (boxes : List (Box α)) : Box α := boxes.foldl meet plane

def image (t : Affine α) (b : Box α) : Box α :=
  hull (b.corners.map fun p => ofPosition (t.apply p))

end

end Box

end Graticule
