import Graticule.Scalar

/-!
# JSON values

A JSON value keeps the members of an object in the order in which they were read.  `Json.settle`
puts the members in the order of their names and keeps the last of several with one name.
-/

namespace Graticule

inductive Json (α : Type) where
  | null
  | bool (b : Bool)
  | integer (n : Int)
  | real (x : α)
  | string (s : String)
  | array (items : List (Json α))
  | object (members : List (String × Json α))
deriving Inhabited

namespace Json

variable {α : Type}

def get? (key : String) : Json α → Option (Json α)
  | object members => members.lookup key
  | _ => none

def string? : Json α → Option String
  | string s => some s
  | _ => none

def array? : Json α → Option (List (Json α))
  | array items => some items
  | _ => none

def bool? : Json α → Option Bool
  | bool b => some b
  | _ => none

def natural? : Json α → Option Nat
  | integer n => if n < 0 then none else some n.toNat
  | _ => none

def number? [Scalar α] : Json α → Option α
  | integer n => some (Scalar.ofInt n)
  | real x => some x
  | _ => none

/-- A scalar as a value; one that is not finite has no number and becomes `null`. -/
def ofScalar [Scalar α] (x : α) : Json α :=
  if Scalar.isFinite x then real x else null

/-- The last of several members with one name stays. -/
private def keepLast : List (String × Json α) → List (String × Json α)
  | [] => []
  | m :: ms => if ms.any (·.1 == m.1) then keepLast ms else m :: keepLast ms

mutual

/-- Members in the order of their names, the last of several with one name, at every depth. -/
def settle : Json α → Json α
  | array items => array (settleItems items)
  | object members =>
    object ((keepLast (settleMembers members)).mergeSort fun a b => decide (a.1 ≤ b.1))
  | v => v

def settleItems : List (Json α) → List (Json α)
  | [] => []
  | v :: vs => settle v :: settleItems vs

def settleMembers : List (String × Json α) → List (String × Json α)
  | [] => []
  | (k, v) :: ms => (k, settle v) :: settleMembers ms

end

end Json

end Graticule
