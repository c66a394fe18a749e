import Graticule.Planar.Arrangement

/-!
# Lines inside an area

Lines are cut where they meet one another, themselves and the outline of an area, and the pieces
inside the area remain, each once.  A piece on the outline is not inside.  The pieces are taken in
the order of their later ends, at one point from the lowest upward, and each is joined to the end of
what was made of its line before.
-/

namespace Graticule.Clipping

open Arrangement

structure LinePiece where
  line : Nat
  segment : Segment
deriving BEq, Inhabited

/-- The pieces of lines between the places where they meet one another or an outline. -/
def piecesOf (outline : List Segment) (lines : List (List Site)) : List LinePiece :=
  let sides := lines.zipIdx.flatMap fun (line, i) => (chain line).map fun s => (s, i)
  let all := outline ++ sides.map (·.1)
  sides.flatMap fun (s, i) => (pieces all s).map fun t => ⟨i, t⟩

def isInside (outline : Outline) (piece : LinePiece) : Bool :=
  let m := Site.midpoint piece.segment.low piece.segment.high
  !outline.covers m && outline.encloses m

/-- Of several pieces at one place the last stays. -/
private def once : List LinePiece → List LinePiece
  | [] => []
  | p :: ps => if ps.any (·.segment == p.segment) then once ps else p :: once ps

/-- `p` comes before `q` in the order of their later ends and from the lowest upward. -/
def precedes (p q : LinePiece) : Bool :=
  match p.segment.high.compare q.segment.high with
  | .lt => true
  | .gt => false
  | .eq => decide (Site.side q.segment.low q.segment.high p.segment.low ≤ 0)

/-- Lines that are being made of pieces, and which of them have an end, the first or the last point,
at a point; of the pieces of one line at most one is known to end at a point. -/
private structure Joining where
  lines : Array (List Site)
  ends : List ((Nat × Site) × (Nat × Bool))

private def Joining.extend (j : Joining) (line : Nat) (p q : Site) (place : Nat × Bool) : Joining :=
  let (i, atStart) := place
  let others := j.ends.filter fun e => e.1 != (line, p) && e.1 != (line, q)
  ⟨j.lines.modify i fun sites => if atStart then q :: sites else sites ++ [q],
    ((line, q), place) :: others⟩

private def Joining.add (j : Joining) (piece : LinePiece) : Joining :=
  let low := piece.segment.low
  let high := piece.segment.high
  match j.ends.lookup (piece.line, low), j.ends.lookup (piece.line, high) with
  | some place, _ => j.extend piece.line low high place
  | none, some place => j.extend piece.line high low place
  | none, none =>
    let i := j.lines.size
    ⟨j.lines.push [low, high],
      ((piece.line, low), (i, true)) :: ((piece.line, high), (i, false)) :: j.ends⟩

private def joined (pieces : List LinePiece) : List (List Site) :=
  (pieces.foldl Joining.add ⟨#[], []⟩).lines.toList

def clip (outline : List Segment) (lines : List (List Site)) : List (List Site) :=
  let area := Outline.of outline
  joined ((once ((piecesOf outline lines).filter (isInside area))).mergeSort precedes)

end Graticule.Clipping
