import Graticule.Rounding

/-!
# Decimals and their layout

A decimal is a whole number times a power of ten.  A `Layout` says when a decimal is written with an
exponent and how a whole number ends; `Layout.write` writes a decimal by it.
-/

namespace Graticule

structure Decimal where
  digits : Nat
  exponent : Int
deriving BEq, Repr

namespace Decimal

def normalize (v : Decimal) : Decimal :=
  if h : v.digits = 0 then ⟨0, 0⟩
  else if v.digits % 10 = 0 then normalize ⟨v.digits / 10, v.exponent + 1⟩
  else v
termination_by v.digits
decreasing_by exact Nat.div_lt_self (Nat.pos_of_ne_zero h) (by decide)

/-- How many digits stand before the point when the decimal is written out; zero or less when it
starts with zeros after the point. -/
def point (v : Decimal) : Int :=
  digitCount v.digits + v.exponent

inductive Tie where
  /-- The one of greater magnitude. -/
  | away
  /-- The one whose last digit is even. -/
  | even
deriving BEq, DecidableEq, Repr

structure Layout where
  /-- The choice between two shortest decimals that are equally near. -/
  tie : Tie
  /-- A decimal whose point lies within these bounds is written out; no bounds, every decimal. -/
  writtenOut : Option (Int × Int)
  /-- What follows a whole number that is written out. -/
  wholeEnd : String

/-- Every decimal is written out, a whole number ends with its last digit, and a tie goes away from
zero. -/
def plain : Layout := ⟨.away, none, ""⟩

/-- Decimals from `1e-5` up to `1e16` are written out, a whole number ends with `.0`, and a tie goes
to the even digit. -/
def marked : Layout := ⟨.even, some (-4, 16), ".0"⟩

def zeros (n : Int) : List Char :=
  List.replicate n.toNat '0'

/-- The digits with the point among them, after leading zeros or before trailing ones. -/
def writeOut (wholeEnd : String) (v : Decimal) : String :=
  let cs := (toString v.digits).toList
  if 0 ≤ v.exponent then String.ofList (cs ++ zeros v.exponent) ++ wholeEnd
  else if 0 < v.point then
    String.ofList (cs.take v.point.toNat ++ '.' :: cs.drop v.point.toNat)
  else String.ofList ('0' :: '.' :: (zeros (-v.point) ++ cs))

private def writeExponent (v : Decimal) : String :=
  let e := v.point - 1
  let mark := if e < 0 then "e-" else "e+"
  match (toString v.digits).toList with
  | c :: d :: cs => String.ofList (c :: '.' :: d :: cs) ++ mark ++ toString e.natAbs
  | cs => String.ofList cs ++ mark ++ toString e.natAbs

def Layout.write (layout : Layout) (v : Decimal) : String :=
  let v := v.normalize
  match layout.writtenOut with
  | none => writeOut layout.wholeEnd v
  | some (low, high) =>
    if v.digits = 0 ∨ (low ≤ v.point ∧ v.point ≤ high) then writeOut layout.wholeEnd v
    else writeExponent v

end Decimal

end Graticule
