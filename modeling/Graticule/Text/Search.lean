/-!
# Searching texts

Letter case of the basic Latin alphabet, and what stands before and after an occurrence.
-/

namespace Graticule.Text

def upper (cs : List Char) : List Char :=
  cs.map Char.toUpper

def dropFront? : List Char → List Char → Option (List Char)
  | [], cs => some cs
  | _ :: _, [] => none
  | f :: fs, c :: cs => if f = c then dropFront? fs cs else none

def afterLast? (tag : List Char) : List Char → Option (List Char)
  | [] => dropFront? tag []
  | c :: cs => afterLast? tag cs <|> dropFront? tag (c :: cs)

def splitFirst? (mark : Char) : List Char → Option (List Char × List Char)
  | [] => none
  | c :: cs =>
    if c = mark then some ([], cs)
    else (splitFirst? mark cs).map fun (before, after) => (c :: before, after)

/-- The text without the copies of a character that it starts and ends with. -/
def stripMark (mark : Char) (cs : List Char) : List Char :=
  ((cs.dropWhile (· == mark)).reverse.dropWhile (· == mark)).reverse

end Graticule.Text
