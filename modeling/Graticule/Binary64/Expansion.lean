/-!
# Sums of machine numbers without rounding

A sum or a product of machine numbers is its rounded value and an error that is a machine number
too, as long as nothing overflows or underflows.  An expansion is a list of machine numbers, from
the least magnitude to the greatest, that stands for their exact sum; its last number has the sign
of the sum.
-/

namespace Graticule.Binary64

def exactSum (a b : Float) : Float × Float :=
  let x := a + b
  let b' := x - a
  (x, (a - (x - b')) + (b - b'))

def differenceError (a b x : Float) : Float :=
  let b' := a - x
  (a - (x + b')) + (b' - b)

def exactDifference (a b : Float) : Float × Float :=
  (a - b, differenceError a b (a - b))

/-- A number as a sum of two with at most half its digits each. -/
private def split (a : Float) : Float × Float :=
  let c := 134217729.0 * a
  let high := c - (c - a)
  (high, a - high)

def exactProduct (a b : Float) : Float × Float :=
  let x := a * b
  let (aHigh, aLow) := split a
  let (bHigh, bLow) := split b
  (x, aLow * bLow - (x - aHigh * bHigh - aLow * bHigh - aHigh * bLow))

/-- A list of machine numbers that stands for their sum, the least magnitude first. -/
abbrev Expansion := List Float

namespace Expansion

def ofDifference (a b : Float × Float) : Expansion :=
  let (i, x0) := exactDifference a.2 b.2
  let (j, r) := exactSum a.1 i
  let (k, x1) := exactDifference r b.1
  let (x3, x2) := exactSum j k
  [x0, x1, x2, x3]

def estimate (e : Expansion) : Float :=
  match e with
  | [] => 0
  | x :: xs => xs.foldl (· + ·) x

private def isLess (x y : Float) : Bool :=
  decide (x < y) == decide (-x < y)

private def merge : List Float → List Float → List Float
  | [], f => f
  | e, [] => e
  | x :: e, y :: f => if isLess x y then x :: merge e (y :: f) else y :: merge (x :: e) f
termination_by e f => e.length + f.length

private def sweep (q : Float) : List Float → List Float
  | [] => if q == 0 then [] else [q]
  | x :: xs =>
    let (q, h) := exactSum q x
    if h == 0 then sweep q xs else h :: sweep q xs

def add (e f : Expansion) : Expansion :=
  match merge e f with
  | [] => []
  | x :: xs => sweep x xs

def leading (e : Expansion) : Float := e.getLast?.getD 0

end Expansion

end Graticule.Binary64
