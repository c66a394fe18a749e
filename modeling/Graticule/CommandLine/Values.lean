import Graticule.AxisPair
import Graticule.Decimal.Reader
import Graticule.Text.Blank
import Graticule.Text.Quoted
import Graticule.Text.Search

/-!
# Values of options

The numbers and pairs of numbers that options take.
-/

namespace Graticule.CommandLine

inductive PairError where
  /-- The text has no comma. -/
  | noComma (text : String)
  /-- The part before or after the comma is not a number. -/
  | notANumber (part : String)
deriving BEq, Repr

namespace PairError

def message : PairError → String
  | noComma text => "expected Y,X, got " ++ Text.quote text
  | notANumber part =>
    "invalid number " ++ Text.quote part ++ ": " ++
      if (Text.trim part.toList).isEmpty then "cannot parse float from empty string"
      else "invalid float literal"

end PairError

/-- The number in a part of a pair, blanks around it being passed over. -/
private def part (cs : List Char) : Except PairError Float :=
  match Decimal.float? (String.ofList (Text.trim cs)) with
  | some x => .ok x
  | none => .error (.notANumber (String.ofList cs))

/-- The pair in a text with a comma between the value for the vertical and that for the horizontal
axis. -/
def axisPair (text : String) : Except PairError (AxisPair Float) :=
  match Text.splitFirst? ',' text.toList with
  | none => .error (.noComma text)
  | some (y, x) => do return ⟨← part y, ← part x⟩

end Graticule.CommandLine
