import Graticule.Error

/-!
# Spans of indices

A span selects consecutive rows or columns.  An absent bound is an end of the axis and a negative
one counts from the far end; bounds beyond the axis are kept, so a selection may reach past it.
-/

namespace Graticule

/-- A half-open range of indices along an axis. -/
structure Span where
  start : Option Int
  stop : Option Int
  step : Option Int
deriving BEq, DecidableEq, Repr

namespace Span

def full : Span := ⟨none, none, none⟩

/-- The indices from `start` up to `stop`, without `stop`. -/
def between (start stop : Int) : Span := ⟨some start, some stop, none⟩

/-- A single index; after `-1` comes the end of the axis. -/
def ofIndex (i : Int) : Span := ⟨some i, if i = -1 then none else some (i + 1), none⟩

def fromStart (length : Nat) (i : Int) : Int := if i < 0 then i + length else i

/-- The first index and the number of indices on an axis; only the step one is possible. -/
def resolve {α : Type} (s : Span) (length : Nat) : Except (Error α) (Int × Nat) :=
  let step := s.step.getD 1
  if step = 1 then
    let start := (s.start.map (fromStart length)).getD 0
    let stop := (s.stop.map (fromStart length)).getD length
    .ok (start, (stop - start).toNat)
  else .error (.stepped step)

end Span

structure Region where
  rows : Span
  columns : Span
deriving BEq, DecidableEq, Repr

namespace Region

def ofRows (rows : Span) : Region := ⟨rows, .full⟩

end Region

end Graticule
