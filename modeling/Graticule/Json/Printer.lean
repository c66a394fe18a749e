import Graticule.Json.Basic
import Graticule.Decimal.Shortest

/-!
# Writing JSON

A value on one line without blanks, or spread over lines with two blanks for each level.
-/

namespace Graticule.Json

private def hexDigit (n : Nat) : Char :=
  if n < 10 then Char.ofNat (48 + n) else Char.ofNat (87 + n)

private def escaped (c : Char) : List Char :=
  if c = '"' then ['\\', '"']
  else if c = '\\' then ['\\', '\\']
  else if c = '\n' then ['\\', 'n']
  else if c = '\t' then ['\\', 't']
  else if c.toNat = 13 then ['\\', 'r']
  else if c.toNat = 8 then ['\\', 'b']
  else if c.toNat = 12 then ['\\', 'f']
  else if c.toNat < 32 then
    ['\\', 'u', '0', '0', hexDigit (c.toNat / 16), hexDigit (c.toNat % 16)]
  else [c]

def quoted (s : String) : String :=
  String.ofList ('"' :: (s.toList.flatMap escaped ++ ['"']))

/-- A finite number keeps a mark that it is not whole by type; any other is `null`. -/
private def realText (x : Float) : String :=
  if x.isFinite then Decimal.ofFloat Decimal.marked x else "null"

private def atomText : Json Float → String
  | null => "null"
  | bool b => if b then "true" else "false"
  | integer n => toString n
  | real x => realText x
  | string s => quoted s
  | array _ => "[]"
  | object _ => "\x7b\x7d"

mutual

def compact : Json Float → String
  | array items => "[" ++ ",".intercalate (compactItems items) ++ "]"
  | object members => "\x7b" ++ ",".intercalate (compactMembers members) ++ "\x7d"
  | v => atomText v

private def compactItems : List (Json Float) → List String
  | [] => []
  | v :: vs => compact v :: compactItems vs

private def compactMembers : List (String × Json Float) → List String
  | [] => []
  | (k, v) :: ms => (quoted k ++ ":" ++ compact v) :: compactMembers ms

end

private def newLine (level : Nat) : String :=
  String.ofList ('\n' :: List.replicate (2 * level) ' ')

private def spread (level : Nat) (opening closing : String) (parts : List String) : String :=
  if parts.isEmpty then opening ++ closing
  else
    opening ++ newLine (level + 1) ++ ("," ++ newLine (level + 1)).intercalate parts
      ++ newLine level ++ closing

mutual

private def prettyAt (level : Nat) : Json Float → String
  | array items => spread level "[" "]" (prettyItems (level + 1) items)
  | object members => spread level "\x7b" "\x7d" (prettyMembers (level + 1) members)
  | v => atomText v

private def prettyItems (level : Nat) : List (Json Float) → List String
  | [] => []
  | v :: vs => prettyAt level v :: prettyItems level vs

private def prettyMembers (level : Nat) : List (String × Json Float) → List String
  | [] => []
  | (k, v) :: ms => (quoted k ++ ": " ++ prettyAt level v) :: prettyMembers level ms

end

def pretty (v : Json Float) : String :=
  prettyAt 0 v

end Graticule.Json
