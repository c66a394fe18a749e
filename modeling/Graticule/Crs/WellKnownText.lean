import Graticule.Decimal.Reader
import Graticule.Projection.Definition

/-!
# Well-known text of reference systems

Well-known text nests `KEYWORD[…]` nodes.  `WellKnownText.render` writes the text of a registered
system, whose identifier is the last child of the root; `WellKnownText.rootCode?` reads the code
from the last identifier in a text.
-/

namespace Graticule.WellKnownText

def rootKeywords : List String :=
  ["GEOGCS[", "PROJCS[", "GEOCCS[", "GEOGCRS[", "PROJCRS[", "GEODCRS[", "BASEGEOGCRS["]

/-- Whether a text starts with the keyword of a reference system, in any case. -/
def isWellKnownText (s : String) : Bool :=
  let cs := Text.upper (Text.trimStart s.toList)
  rootKeywords.any fun keyword => (Text.dropFront? keyword.toList cs).isSome

/-- The number that a text of digits writes, if it fits in 32 bits. -/
def code? (cs : List Char) : Option Nat :=
  let ds := match cs with
    | '+' :: ds => ds
    | ds => ds
  if ds.isEmpty || !ds.all Char.isDigit then none
  else
    let n := Decimal.ofDigits ds
    if n < powerOfTwo 32 then some n else none

def afterIdentifier? (cs : List Char) : Option (List Char) :=
  match Text.afterLast? "AUTHORITY[".toList cs, Text.afterLast? "ID[".toList cs with
  | some a, some b => some (if a.length ≤ b.length then a else b)
  | some a, none => some a
  | none, b => b

def item (cs : List Char) : List Char :=
  Text.stripMark '"' (Text.trim cs)

def rootCode? (s : String) : Option Nat := do
  let rest ← afterIdentifier? (Text.upper s.toList)
  let (body, _) ← Text.splitFirst? ']' rest
  match (body.splitOn ',').map item with
  | authority :: code :: _ => if authority = "EPSG".toList then code? code else none
  | _ => none

variable {α : Type} [Elementary α] [Written α]

private def spheroidNode (e : Ellipsoid α) : String :=
  "SPHEROID[\"" ++ (if e == .grs80 then "GRS 1980" else "WGS 84") ++ "\"," ++ Written.text e.a
    ++ "," ++ Written.text e.inverseFlattening ++ "]"

private def authorityNode (code : Nat) : String :=
  "AUTHORITY[\"EPSG\",\"" ++ toString code ++ "\"]"

private def angularNodes : String :=
  "PRIMEM[\"Greenwich\",0],UNIT[\"degree\",0.0174532925199433]"

def render (code : Nat) (name : String) (p : Projection α) : String :=
  let spheroid := spheroidNode p.ellipsoid
  if p.isGeographic then
    "GEOGCS[\"" ++ name ++ "\",DATUM[\"" ++ name ++ "\"," ++ spheroid ++ "]," ++ angularNodes ++ ","
      ++ authorityNode code ++ "]"
  else
    "PROJCS[\"" ++ name ++ "\",GEOGCS[\"WGS 84\",DATUM[\"WGS_1984\"," ++ spheroid ++ "],"
      ++ angularNodes ++ "," ++ authorityNode 4326 ++ "],PROJECTION[\"" ++ p.method
      ++ "\"],UNIT[\"metre\",1],EXTENSION[\"PROJ4\",\"" ++ p.text ++ "\"]," ++ authorityNode code
      ++ "]"

end Graticule.WellKnownText
