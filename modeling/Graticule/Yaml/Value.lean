import Graticule.Decimal.Reader
import Graticule.Text.Hexadecimal
import Graticule.Yaml.Node

/-!
# Values of YAML nodes

What a node of a document stands for where a text, a number, a list or a record is expected.  A
reference stands for the node with its anchor.  Numbers are written as plain scalars, or as literal
ones that have the tag of a number.
-/

namespace Graticule.Yaml.Document

def text? (d : Document) (v : Node) : Option String :=
  match d.target v with
  | .scalar _ _ text _ => some text
  | _ => none

def items? (d : Document) (v : Node) : Option (List Node) :=
  match d.target v with
  | .sequence _ items => some items
  | .scalar _ _ "" .plain => some []
  | _ => none

def members? (d : Document) (v : Node) : Option (List (Node × Node)) :=
  match d.target v with
  | .mapping _ members => some members
  | _ => none

/-- The characters of a scalar that may be a number of the kind that has the given tag. -/
private def numeral? (d : Document) (tag : String) (v : Node) : Option (List Char) :=
  match d.target v with
  | .scalar _ _ text .plain => some text.toList
  | .scalar _ t text .literal => if t == tag.toList then some text.toList else none
  | _ => none

private def digitIn? (base : Nat) (c : Char) : Option Nat := do
  let value ← Text.hexDigit? c
  if value < base then some value else none

/-- The number that digits of a base write, if there are any and it fits in 64 bits. -/
private def ofBase? (base : Nat) (cs : List Char) : Option Nat := do
  let value ← cs.foldlM (fun n c => (digitIn? base c).map (base * n + ·)) 0
  if cs.isEmpty || powerOfTwo 64 ≤ value then none else some value

private def hasNeedlessZero : List Char → Bool
  | '0' :: c :: cs => (c :: cs).all Char.isDigit
  | _ => false

private def dropPlus : List Char → List Char
  | '+' :: cs => cs
  | cs => cs

/-- A whole number in base ten, or in base sixteen, eight or two after `0x`, `0o` or `0b`. -/
def natural? (d : Document) (v : Node) : Option Nat := do
  match dropPlus (← d.numeral? "tag:yaml.org,2002:int" v) with
  | '0' :: 'x' :: cs => ofBase? 16 cs
  | '0' :: 'o' :: cs => ofBase? 8 cs
  | '0' :: 'b' :: cs => ofBase? 2 cs
  | cs => if hasNeedlessZero cs then none else ofBase? 10 cs

/-- A number; the infinities and the value that is not a number are words after a point. -/
def number? (d : Document) (v : Node) : Option Float := do
  let cs ← d.numeral? "tag:yaml.org,2002:float" v
  match String.ofList cs with
  | ".inf" | ".Inf" | ".INF" | "+.inf" | "+.Inf" | "+.INF" => some (1.0 / 0.0)
  | "-.inf" | "-.Inf" | "-.INF" => some (-1.0 / 0.0)
  | ".nan" | ".NaN" | ".NAN" => some (0.0 / 0.0)
  | _ =>
    match cs with
    | '+' :: '+' :: _ => none
    | '+' :: '-' :: _ => none
    | _ =>
      let x ← Decimal.float? (String.ofList cs)
      if x.isFinite then some x else none

/-- The values of the members with the given name; none if a name is not a scalar. -/
def named? (d : Document) (members : List (Node × Node)) (name : String) :
    Option (List Node) := do
  let names ← members.mapM fun m => d.text? m.1
  return ((names.zip members).filter fun (n, _) => n == name).map fun (_, m) => m.2

end Graticule.Yaml.Document
