import Graticule.Text.Hexadecimal
import Graticule.Yaml.Cursor

/-!
# Scalars of YAML

Plain, quoted and block scalars at the front of a text.  A scalar may run over several lines; a
single line feed becomes a blank and of several all but one stay.
-/

namespace Graticule.Yaml

/-! ## Gaps -/

/-- The blanks and line breaks since the last character of a scalar that is not one of them, the
last one first.  A line break at which a line is folded drops the blanks around it. -/
inductive Gap where
  | blanks (spaces : List Char)
  | breaks (first : List Char) (others : List Char)

namespace Gap

def none : Gap := blanks []

def isNone : Gap → Bool
  | blanks [] => true
  | _ => false

def isBroken : Gap → Bool
  | blanks _ => false
  | breaks _ _ => true

def addSpace (c : Char) : Gap → Gap
  | blanks spaces => blanks (c :: spaces)
  | broken => broken

def addBreak (c : Char) : Gap → Gap
  | blanks _ => breaks [c] []
  | breaks first others => breaks first (c :: others)

def folded : Gap → List Char
  | blanks spaces => spaces
  | breaks ['\n'] [] => [' ']
  | breaks ['\n'] others => others
  | breaks first others => others ++ first

end Gap

/-! ## Quoted scalars -/

/-- The characters of a scalar in single quotes after those read, and the place after it. -/
def takeSingleQuoted (read : List Char) (gap : Gap) (line column : Nat) :
    List Char → Option (List Char × Cursor)
  | [] => none
  | '\'' :: '\'' :: cs =>
    takeSingleQuoted ('\'' :: (gap.folded ++ read)) .none line (column + 2) cs
  | '\'' :: cs => some ((gap.folded ++ read).reverse, ⟨cs, line, column + 1⟩)
  | c :: cs =>
    if isSpace c then takeSingleQuoted read (gap.addSpace c) line (column + 1) cs
    else if isBreak c then takeSingleQuoted read (gap.addBreak c) (line + 1) 0 cs
    else if column == 0 && isDocumentMark (c :: cs) then none
    else takeSingleQuoted (c :: (gap.folded ++ read)) .none line (column + 1) cs

private def shortEscape? (c : Char) : Option Char :=
  match c with
  | '0' => some (Char.ofNat 0)
  | 'a' => some (Char.ofNat 7)
  | 'b' => some (Char.ofNat 8)
  | 't' => some '\t'
  | '\t' => some '\t'
  | 'n' => some '\n'
  | 'v' => some (Char.ofNat 11)
  | 'f' => some (Char.ofNat 12)
  | 'r' => some (Char.ofNat 13)
  | 'e' => some (Char.ofNat 27)
  | ' ' => some ' '
  | '"' => some '"'
  | '/' => some '/'
  | '\\' => some '\\'
  | 'N' => some (Char.ofNat 0x85)
  | '_' => some (Char.ofNat 0xa0)
  | 'L' => some '\u2028'
  | 'P' => some '\u2029'
  | _ => none

private def codeEscape? (digits : List Char) : Option Char := do
  let n ← Text.hexNumber? digits
  if (0xd800 ≤ n && n ≤ 0xdfff) || 0x10ffff < n then none else some (Char.ofNat n)

/-- The characters of a scalar in double quotes after those read, and the place after it.  A
backslash at the end of a line drops the line break. -/
def takeDoubleQuoted (read : List Char) (gap : Gap) (line column : Nat) :
    List Char → Option (List Char × Cursor)
  | [] => none
  | '"' :: cs => some ((gap.folded ++ read).reverse, ⟨cs, line, column + 1⟩)
  | '\\' :: 'x' :: a :: b :: cs => do
    let c ← codeEscape? [a, b]
    takeDoubleQuoted (c :: (gap.folded ++ read)) .none line (column + 4) cs
  | '\\' :: 'u' :: a :: b :: c :: d :: cs => do
    let c ← codeEscape? [a, b, c, d]
    takeDoubleQuoted (c :: (gap.folded ++ read)) .none line (column + 6) cs
  | '\\' :: 'U' :: a :: b :: c :: d :: e :: f :: g :: h :: cs => do
    let c ← codeEscape? [a, b, c, d, e, f, g, h]
    takeDoubleQuoted (c :: (gap.folded ++ read)) .none line (column + 10) cs
  | '\\' :: e :: cs =>
    if isBreak e then takeDoubleQuoted (gap.folded ++ read) (.breaks [] []) (line + 1) 0 cs
    else
      match shortEscape? e with
      | some c => takeDoubleQuoted (c :: (gap.folded ++ read)) .none line (column + 2) cs
      | none => none
  | c :: cs =>
    if isSpace c then takeDoubleQuoted read (gap.addSpace c) line (column + 1) cs
    else if isBreak c then takeDoubleQuoted read (gap.addBreak c) (line + 1) 0 cs
    else if c == '\\' || (column == 0 && isDocumentMark (c :: cs)) then none
    else takeDoubleQuoted (c :: (gap.folded ++ read)) .none line (column + 1) cs

/-! ## Plain scalars -/

def isFlowMark (c : Char) : Bool :=
  c == ',' || c == '[' || c == ']' || c.toNat == 123 || c.toNat == 125

structure PlainEnd where
  text : List Char
  cursor : Cursor
  inNewLine : Bool

/-- The characters of a plain scalar after those read, and where it ends.  Outside flow collections
its lines start at the column `least` or later. -/
def takePlain (inFlow : Bool) (least : Int) (read : List Char) (gap : Gap) (line column : Nat) :
    List Char → Option PlainEnd
  | [] => some ⟨read.reverse, ⟨[], line, column⟩, gap.isBroken⟩
  | c :: cs =>
    if isSpace c then
      if gap.isBroken && column < least && c == '\t' then none
      else takePlain inFlow least read (gap.addSpace c) line (column + 1) cs
    else if isBreak c then takePlain inFlow least read (gap.addBreak c) (line + 1) 0 cs
    else
      let atEnd : PlainEnd := ⟨read.reverse, ⟨c :: cs, line, column⟩, gap.isBroken⟩
      if !gap.isNone && ((!inFlow && column < least) || c == '#'
          || (column == 0 && isDocumentMark (c :: cs))) then some atEnd
      else if inFlow && c == ':' && cs.head?.any fun d => d == '?' || isFlowMark d then none
      else if (c == ':' && isGap cs) || (inFlow && isFlowMark c) then some atEnd
      else takePlain inFlow least (c :: (gap.folded ++ read)) .none line (column + 1) cs

/-! ## Block scalars -/

inductive Chomping where
  | strip
  | clip
  | keep
deriving BEq

/-- How a block scalar is to be read; without an indentation the first line of text gives it. -/
structure BlockHeader where
  isLiteral : Bool
  chomping : Chomping
  indentation : Option Nat

private def chomping? : Char → Option Chomping
  | '+' => some .keep
  | '-' => some .strip
  | _ => none

/-- The digit of an indentation, which is not zero, at the front of a text. -/
private def takeIndentation? : List Char → Option (Option Nat × List Char)
  | [] => some (none, [])
  | c :: cs =>
    if c == '0' then none
    else if c.isDigit then some (some (c.toNat - '0'.toNat), cs)
    else some (none, c :: cs)

private def takeChomping (cs : List Char) : Chomping × List Char :=
  match cs with
  | [] => (.clip, [])
  | c :: ds =>
    match chomping? c with
    | some chomping => (chomping, ds)
    | none => (.clip, cs)

/-- The header of a block scalar after its mark, and the end of its line.  The indentation and the
mark for the last line breaks come in any order. -/
def takeBlockHeader? (isLiteral : Bool) (cs : List Char) : Option (BlockHeader × List Char) := do
  let (chomping, indentation, rest) ←
    match cs.head?.bind chomping? with
    | some chomping => do
      let (indentation, rest) ← takeIndentation? cs.tail
      pure (chomping, indentation, rest)
    | none => do
      match ← takeIndentation? cs with
      | (none, rest) => pure (.clip, none, rest)
      | (indentation, rest) =>
        let (chomping, rest) := takeChomping rest
        pure (chomping, indentation, rest)
  return (⟨isLiteral, chomping, indentation⟩, ← dropLineEnd? rest)

/-- A line of text and the line break after it; the last line has none. -/
private structure BlockLine where
  text : List Char
  ending : List Char

private def blockLines : List Char → List BlockLine
  | [] => []
  | c :: cs =>
    if isBreak c then ⟨[], [c]⟩ :: blockLines cs
    else
      match blockLines cs with
      | line :: lines => ⟨c :: line.text, line.ending⟩ :: lines
      | [] => [⟨[c], []⟩]

private def BlockLine.chars (line : BlockLine) : List Char := line.text ++ line.ending

/-- The number of spaces in front of the first line that has more than spaces, or in front of one
before it if that has more of them.  A tab takes no part in indentation. -/
private def deepestLead? : List BlockLine → Option Nat
  | [] => some 0
  | line :: lines =>
    let (spaces, rest) := line.text.span (· == ' ')
    match rest with
    | [] =>
      if line.ending.isEmpty then some spaces.length
      else (deepestLead? lines).map (max spaces.length ·)
    | c :: _ => if c == '\t' then none else some spaces.length

/-- What was read of a block scalar, the last character first: its text, the break after its last
line, and the breaks of the empty lines after that. -/
private structure BlockText where
  read : List Char
  ending : List Char
  empty : List Char
  /-- The last line starts with a blank. -/
  isSpaced : Bool

private def BlockText.add (isLiteral : Bool) (b : BlockText) (text ending : List Char) :
    BlockText :=
  let isSpaced := text.head?.any isSpace
  let join :=
    if !isLiteral && b.ending == ['\n'] && !b.isSpaced && !isSpaced then
      if b.empty.isEmpty then [' '] else b.empty
    else b.empty ++ b.ending
  ⟨text.reverse ++ (join ++ b.read), ending, [], isSpaced⟩

/-- The text up to the first line that is indented less, the lines from there on, and how many lines
there are before. -/
private def takeBlockLines (isLiteral : Bool) (indent : Nat) (b : BlockText) (count : Nat) :
    List BlockLine → Option (BlockText × List BlockLine × Nat)
  | [] => some (b, [], count)
  | line :: lines =>
    let spaces := min indent (line.text.takeWhile (· == ' ')).length
    match line.text.drop spaces with
    | [] =>
      if line.ending.isEmpty then some (b, [line], count)
      else
        takeBlockLines isLiteral indent ⟨b.read, b.ending, line.ending ++ b.empty, b.isSpaced⟩
          (count + 1) lines
    | c :: cs =>
      if spaces = indent then
        takeBlockLines isLiteral indent (b.add isLiteral (c :: cs) line.ending) (count + 1) lines
      else if c == '\t' then none
      else some (b, line :: lines, count)

private def BlockText.chomp (b : BlockText) : Chomping → List Char
  | .strip => b.read.reverse
  | .clip => (b.ending ++ b.read).reverse
  | .keep => (b.empty ++ b.ending ++ b.read).reverse

/-- The characters of a block scalar that starts at the beginning of a line, and the place after it.
Its lines are indented by more than `outer`. -/
def takeBlock (header : BlockHeader) (outer : Int) (start : Cursor) :
    Option (List Char × Cursor) := do
  let lines := blockLines start.rest
  let indent ←
    match header.indentation with
    | some n => some (n + outer.toNat)
    | none => (deepestLead? lines).map fun n => max n (max (outer + 1).toNat 1)
  let (b, rest, count) ← takeBlockLines header.isLiteral indent ⟨[], [], [], false⟩ 0 lines
  return (b.chomp header.chomping, ⟨rest.flatMap (·.chars), start.line + count, 0⟩)

end Graticule.Yaml
