import Graticule.Decimal.Shortest
import Graticule.Scalar

/-!
# Reading decimals

A written number is an optional sign and then either digits with at most one point among them and an
optional exponent, or one of the words `inf`, `infinity` and `nan` in any case.  It stands for the
nearest machine number.
-/

namespace Graticule.Decimal

def digitValue (c : Char) : Nat :=
  c.toNat - '0'.toNat

def ofDigits (cs : List Char) : Nat :=
  cs.foldl (fun n c => 10 * n + digitValue c) 0

def takeSign : List Char → Bool × List Char
  | '-' :: cs => (true, cs)
  | '+' :: cs => (false, cs)
  | cs => (false, cs)

private def exponent? : List Char → Option Int
  | [] => some 0
  | c :: cs =>
    let (negative, ds) := takeSign cs
    if (c == 'e' || c == 'E') && !ds.isEmpty && ds.all Char.isDigit then
      some (if negative then -(ofDigits ds : Int) else ofDigits ds)
    else none

/-- A number as it is written, without a sign: the digits before and after the point, and the
exponent. -/
structure Numeral where
  whole : List Char
  fraction : List Char
  exponent : Int
deriving BEq, Repr

def numeral? (cs : List Char) : Option Numeral :=
  let (whole, rest) := cs.span Char.isDigit
  let (fraction, rest) := match rest with
    | '.' :: ds => ds.span Char.isDigit
    | ds => ([], ds)
  if whole.isEmpty && fraction.isEmpty then none
  else (exponent? rest).map fun e => ⟨whole, fraction, e⟩

def Numeral.value (n : Numeral) : Decimal :=
  ⟨ofDigits (n.whole ++ n.fraction), n.exponent - n.fraction.length⟩

def toFloat (v : Decimal) : Float :=
  if v.digits = 0 ∨ v.point < -400 then 0
  else if 400 < v.point then 1.0 / 0.0
  else Float.ofScientific v.digits (v.exponent < 0) v.exponent.natAbs

/-- The infinities and the value that is not a number are written as words. -/
private def word? (cs : List Char) : Option Float :=
  match String.ofList (cs.map Char.toLower) with
  | "inf" => some (1.0 / 0.0)
  | "infinity" => some (1.0 / 0.0)
  | "nan" => some (0.0 / 0.0)
  | _ => none

def float? (s : String) : Option Float :=
  let (negative, cs) := takeSign s.toList
  ((numeral? cs).map (·.value.toFloat) <|> word? cs).map fun x => if negative then -x else x

instance instWritten : Written Float where
  text := ofFloat plain
  ofText? := float?

end Graticule.Decimal
