/-!
# Places in a YAML text

The characters of a YAML text, and a place in it as what follows and the line and column before it.
`Cursor.start?` takes a text whose characters are all allowed and gives each line break as one
character.
-/

namespace Graticule.Yaml

def isAllowed (c : Char) : Bool :=
  let n := c.toNat
  n == 0x09 || n == 0x0a || n == 0x0d || (0x20 ≤ n && n ≤ 0x7e) || n == 0x85 ||
    (0xa0 ≤ n && n ≤ 0xfffd) || 0x10000 ≤ n

def isSpace (c : Char) : Bool := c == ' ' || c == '\t'

def isBreak (c : Char) : Bool := c == '\n' || c == '\u2028' || c == '\u2029'

/-- No more text, a blank or a line break follows. -/
def isGap : List Char → Bool
  | [] => true
  | c :: _ => isSpace c || isBreak c

/-- No more text or a line break follows. -/
def isLineEnd : List Char → Bool
  | [] => true
  | c :: _ => isBreak c

def isNameChar (c : Char) : Bool := c.isAlphanum || c == '_' || c == '-'

/-- A document starts or ends here, if this is the start of a line. -/
def isDocumentMark : List Char → Bool
  | '-' :: '-' :: '-' :: cs => isGap cs
  | '.' :: '.' :: '.' :: cs => isGap cs
  | _ => false

/-- The text with a line feed for a carriage return, for one with a line feed after it, and for a
next line character. -/
def unifyBreaks : List Char → List Char
  | [] => []
  | '\x0d' :: '\n' :: cs => '\n' :: unifyBreaks cs
  | c :: cs => (if c.toNat == 0x0d || c.toNat == 0x85 then '\n' else c) :: unifyBreaks cs

/-- A place in a text: what follows it, the number of its line, and how many characters its line has
before it. -/
structure Cursor where
  rest : List Char
  line : Nat
  column : Nat
deriving Inhabited

namespace Cursor

def start? (text : String) : Option Cursor :=
  let cs := text.toList
  if cs.all isAllowed then some ⟨unifyBreaks cs, 0, 0⟩ else none

def advance (c : Cursor) (n : Nat) : Cursor := ⟨c.rest.drop n, c.line, c.column + n⟩

/-- The place further on in the line that is followed by the given end of the text. -/
def before (c : Cursor) (rest : List Char) : Cursor :=
  ⟨rest, c.line, c.column + (c.rest.length - rest.length)⟩

/-- The start of the next line, when nothing but a line break is left of this one. -/
def nextLine (c : Cursor) : Cursor :=
  match c.rest with
  | [] => c
  | _ :: rest => ⟨rest, c.line + 1, 0⟩

end Cursor

/-- The text after the blanks and the comment at the end of a line, if there is nothing else. -/
def dropLineEnd? (cs : List Char) : Option (List Char) :=
  let cs := cs.dropWhile isSpace
  let cs := match cs with
    | '#' :: ds => ds.dropWhile fun c => !isBreak c
    | ds => ds
  if isLineEnd cs then some cs else none

end Graticule.Yaml
