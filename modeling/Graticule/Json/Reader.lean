import Graticule.Decimal.Quick
import Graticule.Json.Basic
import Graticule.Json.Syntax

/-!
# Reading JSON

What the parts of a JSON text stand for.  Whole numbers that fit in 64 bits stay whole, every other
number is a machine number, and a number beyond the machine range is refused, as are halves of
surrogate pairs and nestings deeper than `deepest`.  `Json.readRecord?` reads only the members that
have a meaning and passes over the others, whatever their numbers and strings stand for.
-/

namespace Graticule

inductive Precision where
  /-- As the nearest machine number. -/
  | nearest
  /-- From the leading digits, which is quick and may miss the nearest machine number. -/
  | quick
deriving BEq, DecidableEq, Repr

namespace Json

def deepest : Nat := 127

/-! ## Strings -/

private def isHigh (n : Nat) : Bool := 0xd800 ≤ n && n < 0xdc00

private def isLow (n : Nat) : Bool := 0xdc00 ≤ n && n < 0xe000

/-- The characters that the body of a string stands for, a pending first half of a surrogate pair
being followed by its second half. -/
private def unescapeFrom (pending : Option Nat) : List Char → Option (List Char)
  | [] => if pending.isNone then some [] else none
  | '\\' :: 'u' :: a :: b :: c :: d :: cs => do
    let n ← Text.hexNumber? [a, b, c, d]
    match pending with
    | some high =>
      if isLow n then
        let code := 0x10000 + (high - 0xd800) * 0x400 + (n - 0xdc00)
        return Char.ofNat code :: (← unescapeFrom none cs)
      else none
    | none =>
      if isHigh n then unescapeFrom (some n) cs
      else if isLow n then none
      else return Char.ofNat n :: (← unescapeFrom none cs)
  | '\\' :: e :: cs => do
    let c ← JsonSyntax.escape? e
    if pending.isSome then none else return c :: (← unescapeFrom none cs)
  | c :: cs => if pending.isSome then none else (unescapeFrom none cs).map (c :: ·)

private def unescape? (body : List Char) : Option String :=
  (unescapeFrom none body).map String.ofList

/-! ## Numbers -/

/-- The machine number of a written number, unless it is beyond the machine range. -/
private def magnitude? (precision : Precision) (numeral : Decimal.Numeral) : Option Float :=
  match precision with
  | .nearest =>
    let x := numeral.value.toFloat
    if x.isFinite then some x else none
  | .quick => numeral.quick?

private def numberOf? (precision : Precision) (negative : Bool) (numeral : Decimal.Numeral)
    (isWhole : Bool) : Option (Json Float) :=
  let n := Decimal.ofDigits numeral.whole
  if isWhole && !negative && n < powerOfTwo 64 then some (integer n)
  else if isWhole && negative && 0 < n && n ≤ powerOfTwo 63 then some (integer (-n))
  else (magnitude? precision numeral).map fun x => real (if negative then -x else x)

/-! ## Values -/

mutual

private def ofSyntax (precision : Precision) (depth : Nat) : JsonSyntax → Option (Json Float)
  | .null => some null
  | .bool b => some (bool b)
  | .number negative numeral isWhole => numberOf? precision negative numeral isWhole
  | .string body => (unescape? body).map string
  | .array items =>
    if depth = 0 then none else (ofItems precision (depth - 1) items).map array
  | .object members =>
    if depth = 0 then none else (ofMembers precision (depth - 1) members).map object

private def ofItems (precision : Precision) (depth : Nat) :
    List JsonSyntax → Option (List (Json Float))
  | [] => some []
  | v :: vs => do return (← ofSyntax precision depth v) :: (← ofItems precision depth vs)

private def ofMembers (precision : Precision) (depth : Nat) :
    List (List Char × JsonSyntax) → Option (List (String × Json Float))
  | [] => some []
  | (k, v) :: ms => do
    return (← unescape? k, ← ofSyntax precision depth v) :: (← ofMembers precision depth ms)

end

/-- The value that a text writes, its numbers being read with the given precision. -/
def readWith? (precision : Precision) (text : String) : Option (Json Float) := do
  ofSyntax precision deepest (← JsonSyntax.ofText? text)

def read? (text : String) : Option (Json Float) := readWith? .nearest text

private def namedMembers (names : List String) :
    List (List Char × JsonSyntax) → Option (List (String × Json Float))
  | [] => some []
  | (k, v) :: ms => do
    let name ← unescape? k
    if names.contains name then
      return (name, ← ofSyntax .nearest (deepest - 1) v) :: (← namedMembers names ms)
    else namedMembers names ms

/-- The value that a text writes; of an object at the top only the members of the given names. -/
def readRecord? (names : List String) (text : String) : Option (Json Float) := do
  match ← JsonSyntax.ofText? text with
  | .object members => (namedMembers names members).map object
  | v => ofSyntax .nearest deepest v

end Json

end Graticule
