import Graticule.Text.Hexadecimal
import Graticule.Yaml.Cursor
import Graticule.Yaml.Token

/-!
# Tags, anchors and directives

The tokens that start with an exclamation mark, an ampersand, an asterisk or a percent sign.
-/

namespace Graticule.Yaml

private def endsAnchor (cs : List Char) : Bool :=
  match cs with
  | [] => true
  | c :: _ =>
    isGap cs || c == '?' || c == ':' || c == ',' || c == ']' || c.toNat == 125 || c == '%'
      || c == '@' || c.toNat == 96

def takeAnchor? (cs : List Char) : Option (String × List Char) :=
  let (name, rest) := cs.span isNameChar
  if name.isEmpty || !endsAnchor rest then none else some (String.ofList name, rest)

/-- A character of a tag; brackets and commas belong to a tag between angle brackets only. -/
private def isTagChar (isEnclosed : Bool) (c : Char) : Bool :=
  isNameChar c || ";/?:@&=+$.!~*'()".toList.contains c
    || (isEnclosed && (c == ',' || c == '[' || c == ']'))

private def bytesAfter? (byte : Nat) : Option Nat :=
  if byte < 0x80 then some 0
  else if 0xc0 ≤ byte && byte < 0xe0 then some 1
  else if 0xe0 ≤ byte && byte < 0xf0 then some 2
  else if 0xf0 ≤ byte && byte < 0xf8 then some 3
  else none

/-- The characters of a tag, `left` more bytes of a character being expected.  A percent sign and
two digits write a byte. -/
private def takeTagChars (isEnclosed : Bool) (left : Nat) :
    List Char → Option (List Char × List Char)
  | [] => if left = 0 then some ([], []) else none
  | '%' :: a :: b :: cs => do
    let byte ← Text.hexNumber? [a, b]
    let left ← if left = 0 then bytesAfter? byte
      else if 0x80 ≤ byte && byte < 0xc0 then some (left - 1)
      else none
    let (tag, rest) ← takeTagChars isEnclosed left cs
    return (Char.ofNat byte :: tag, rest)
  | '%' :: _ => none
  | c :: cs =>
    if left ≠ 0 then none
    else if isTagChar isEnclosed c then
      (takeTagChars isEnclosed 0 cs).map fun (tag, rest) => (c :: tag, rest)
    else some ([], c :: cs)

private def takeTagChars? (isEnclosed : Bool) (cs : List Char) :
    Option (List Char × List Char) := do
  let (tag, rest) ← takeTagChars isEnclosed 0 cs
  if tag.isEmpty then none else some (tag, rest)

private def takeTagName? : List Char → Option (TagName × List Char)
  | '<' :: cs => do
    match ← takeTagChars? true cs with
    | (tag, '>' :: rest) => some (⟨[], tag⟩, rest)
    | _ => none
  | cs =>
    match cs.span isNameChar with
    | (name, '!' :: rest) => do
      let (suffix, rest) ← takeTagChars? false rest
      return (⟨'!' :: (name ++ ['!']), suffix⟩, rest)
    | (name, rest) => do
      let (more, rest) ← takeTagChars false 0 rest
      match name ++ more with
      | [] => return (⟨[], ['!']⟩, rest)
      | suffix => return (⟨['!'], suffix⟩, rest)

/-- A tag after its exclamation mark, and what follows it, a gap or a comma in a flow collection. -/
def takeTag? (inFlow : Bool) (cs : List Char) : Option (TagName × List Char) := do
  let (tag, rest) ← takeTagName? cs
  if isGap rest || (inFlow && rest.head? == some ',') then some (tag, rest) else none

private def takeVersionPart? (cs : List Char) : Option (Nat × List Char) :=
  let (digits, rest) := cs.span Char.isDigit
  if digits.isEmpty || 9 < digits.length then none
  else some (digits.foldl (fun n c => 10 * n + (c.toNat - '0'.toNat)) 0, rest)

private def takeVersion? (cs : List Char) : Option (Token × List Char) := do
  match ← takeVersionPart? cs with
  | (major, '.' :: rest) =>
    let (minor, rest) ← takeVersionPart? rest
    return (.version major minor, rest)
  | _ => none

private def takeHandleName? : List Char → Option (List Char × List Char)
  | '!' :: cs =>
    match cs.span isNameChar with
    | (name, '!' :: rest) => some ('!' :: (name ++ ['!']), rest)
    | ([], rest) => some (['!'], rest)
    | _ => none
  | _ => none

private def takeHandle? (cs : List Char) : Option (Token × List Char) := do
  let (name, rest) ← takeHandleName? cs
  if !rest.head?.any isSpace then none
  else
    let (start, rest) ← takeTagChars? true (rest.dropWhile isSpace)
    if isGap rest then some (.handle name start, rest) else none

def takeDirective? (cs : List Char) : Option (Token × List Char) := do
  let (name, rest) := cs.span isNameChar
  if !isGap rest then none
  else
    let rest := rest.dropWhile isSpace
    let (token, rest) ← match String.ofList name with
      | "YAML" => takeVersion? rest
      | "TAG" => takeHandle? rest
      | _ => none
    return (token, ← dropLineEnd? rest)

end Graticule.Yaml
