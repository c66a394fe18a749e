import Graticule.Yaml.Token.Scalar
import Graticule.Yaml.Token.Tag

/-!
# YAML texts as tokens

`Token.listOf?` takes a text apart.  Outside flow collections the indentation opens and closes
blocks. A mapping key needs no mark of its own: where one may start, its place is remembered, and
the marks for a key and for the start of its block are put in when the colon after it is met.  Such
a key ends in its line and has at most 1024 characters.
-/

namespace Graticule.Yaml

private structure PossibleKey where
  /-- Nothing else than a key can be here. -/
  isRequired : Bool
  /-- The number of tokens before it. -/
  place : Nat
  line : Nat
  column : Nat

private structure Lexer where
  cursor : Cursor
  /-- The tokens, the last one first. -/
  tokens : List Token
  /-- The column of the innermost block, `-1` outside all blocks, and those of the blocks around. -/
  indent : Int
  outerIndents : List Int
  /-- The possible key that was met last, and those outside each open flow collection. -/
  possibleKey : Option PossibleKey
  outerKeys : List (Option PossibleKey)
  /-- A key may start at the next token. -/
  allowsKey : Bool

namespace Lexer

private def inFlow (s : Lexer) : Bool := !s.outerKeys.isEmpty

private def column (s : Lexer) : Int := s.cursor.column

private def push (s : Lexer) (t : Token) : Lexer :=
  ⟨s.cursor, t :: s.tokens, s.indent, s.outerIndents, s.possibleKey, s.outerKeys, s.allowsKey⟩

private def insert (s : Lexer) (place : Nat) (t : Token) : Lexer :=
  ⟨s.cursor, s.tokens.insertIdx (s.tokens.length - place) t, s.indent, s.outerIndents,
    s.possibleKey, s.outerKeys, s.allowsKey⟩

private def moveTo (s : Lexer) (cursor : Cursor) : Lexer :=
  ⟨cursor, s.tokens, s.indent, s.outerIndents, s.possibleKey, s.outerKeys, s.allowsKey⟩

private def advance (s : Lexer) (n : Nat) : Lexer := s.moveTo (s.cursor.advance n)

private def allowKey (s : Lexer) (allows : Bool) : Lexer :=
  ⟨s.cursor, s.tokens, s.indent, s.outerIndents, s.possibleKey, s.outerKeys, allows⟩

private def withIndents (s : Lexer) (indent : Int) (outer : List Int) : Lexer :=
  ⟨s.cursor, s.tokens, indent, outer, s.possibleKey, s.outerKeys, s.allowsKey⟩

private def withKeys (s : Lexer) (key : Option PossibleKey) (outer : List (Option PossibleKey)) :
    Lexer :=
  ⟨s.cursor, s.tokens, s.indent, s.outerIndents, key, outer, s.allowsKey⟩

/-! ## Gaps between tokens -/

/-- The next place where a token starts, and whether a key may start there.  A tab is no blank where
a key may start outside flow collections, and a byte order mark may start a line. -/
private def skipGap (inFlow allowsKey inComment : Bool) (line column : Nat) :
    List Char → Cursor × Bool
  | [] => (⟨[], line, column⟩, allowsKey)
  | c :: cs =>
    if isBreak c then skipGap inFlow (allowsKey || !inFlow) false (line + 1) 0 cs
    else if inComment || c == '#' then skipGap inFlow allowsKey true line (column + 1) cs
    else if c == ' ' || (c == '\t' && (inFlow || !allowsKey)) || (c == '\ufeff' && column == 0) then
      skipGap inFlow allowsKey false line (column + 1) cs
    else (⟨c :: cs, line, column⟩, allowsKey)

private def toNextToken (s : Lexer) : Lexer :=
  let c := s.cursor
  let (cursor, allowsKey) := skipGap s.inFlow s.allowsKey false c.line c.column c.rest
  (s.moveTo cursor).allowKey allowsKey

/-! ## Keys and blocks -/

/-- A possible key whose colon can no longer come is no key; one that is required must have it. -/
private def stillPossible? (cursor : Cursor) (key : Option PossibleKey) :
    Option (Option PossibleKey) :=
  match key with
  | none => some none
  | some k =>
    if k.line < cursor.line || k.column + 1024 < cursor.column then
      if k.isRequired then none else some none
    else some (some k)

private def dropStaleKeys (s : Lexer) : Option Lexer := do
  let outer ← s.outerKeys.mapM (stillPossible? s.cursor)
  return s.withKeys (← stillPossible? s.cursor s.possibleKey) outer

private def forgetKey (s : Lexer) : Option Lexer :=
  match s.possibleKey with
  | some k => if k.isRequired then none else some (s.withKeys none s.outerKeys)
  | none => some s

private def rememberKey (s : Lexer) : Option Lexer :=
  if s.allowsKey then do
    let s ← s.forgetKey
    let key : PossibleKey :=
      ⟨!s.inFlow && s.indent == s.column, s.tokens.length, s.cursor.line, s.cursor.column⟩
    return s.withKeys (some key) s.outerKeys
  else some s

/-- A block starts at a column, after the first `place` tokens, if it is indented more. -/
private def openBlock (s : Lexer) (column : Int) (place : Nat) (t : Token) : Lexer :=
  if !s.inFlow && s.indent < column then
    (s.insert place t).withIndents column (s.indent :: s.outerIndents)
  else s

private def closeBlocks (column : Int) (tokens : List Token) (indent : Int) :
    List Int → List Token × Int × List Int
  | [] => (tokens, indent, [])
  | outer :: rest =>
    if column < indent then closeBlocks column (.blockEnd :: tokens) outer rest
    else (tokens, indent, outer :: rest)

private def leaveBlocks (s : Lexer) (column : Int) : Lexer :=
  if s.inFlow then s
  else
    let (tokens, indent, outer) := closeBlocks column s.tokens s.indent s.outerIndents
    ⟨s.cursor, tokens, indent, outer, s.possibleKey, s.outerKeys, s.allowsKey⟩

/-! ## Tokens -/

private def mark (s : Lexer) (length : Nat) (t : Token) : Lexer := (s.push t).advance length

private def leaveDocument (s : Lexer) : Option Lexer :=
  return (← (s.leaveBlocks (-1)).forgetKey).allowKey false

private def directive (s : Lexer) : Option Lexer := do
  let s ← s.leaveDocument
  let (t, rest) ← takeDirective? (s.cursor.rest.drop 1)
  return (s.push t).moveTo (s.cursor.before rest).nextLine

private def openFlow (s : Lexer) (t : Token) : Option Lexer := do
  let s ← s.rememberKey
  return ((s.withKeys none (s.possibleKey :: s.outerKeys)).allowKey true).mark 1 t

private def closeFlow (s : Lexer) (t : Token) : Option Lexer := do
  let s ← s.forgetKey
  let s := match s.outerKeys with
    | key :: outer => s.withKeys key outer
    | [] => s
  return (s.allowKey false).mark 1 t

private def flowEntry (s : Lexer) : Option Lexer :=
  return ((← s.forgetKey).allowKey true).mark 1 .flowEntry

/-- An entry, a key or a value with a mark of its own, which may start a block. -/
private def blockMark (s : Lexer) (opening t : Token) (allowsKey : Bool) : Option Lexer := do
  if !s.inFlow && !s.allowsKey then none
  else
    let s ← (s.openBlock s.column s.tokens.length opening).forgetKey
    return (s.allowKey allowsKey).mark 1 t

private def value (s : Lexer) : Option Lexer :=
  match s.possibleKey with
  | some k =>
    let s := (s.insert k.place .key).openBlock k.column k.place .mappingStart
    some (((s.withKeys none s.outerKeys).allowKey false).mark 1 .value)
  | none => s.blockMark .mappingStart .value !s.inFlow

private def property (s : Lexer) (t : Token) (rest : List Char) : Option Lexer := do
  let s ← s.rememberKey
  return ((s.allowKey false).push t).moveTo (s.cursor.before rest)

private def anchor (s : Lexer) (t : String → Token) : Option Lexer := do
  let (name, rest) ← takeAnchor? (s.cursor.rest.drop 1)
  s.property (t name) rest

private def tag (s : Lexer) : Option Lexer := do
  let (name, rest) ← takeTag? s.inFlow (s.cursor.rest.drop 1)
  s.property (.tag name) rest

private def scalarToken (cs : List Char) (style : Style) : Token :=
  .scalar (String.ofList cs) style

private def blockScalar (s : Lexer) (style : Style) : Option Lexer := do
  let s := (← s.forgetKey).allowKey true
  let (header, rest) ← takeBlockHeader? (style == .literal) (s.cursor.rest.drop 1)
  let (text, cursor) ← takeBlock header s.indent (s.cursor.before rest).nextLine
  return (s.push (scalarToken text style)).moveTo cursor

private def quotedScalar (s : Lexer) (isSingle : Bool) : Option Lexer := do
  let s := (← s.rememberKey).allowKey false
  let c := s.cursor
  let take := if isSingle then takeSingleQuoted else takeDoubleQuoted
  let (text, cursor) ← take [] .none c.line (c.column + 1) (c.rest.drop 1)
  return (s.push (scalarToken text .quoted)).moveTo cursor

private def plainScalar (s : Lexer) : Option Lexer := do
  let s := (← s.rememberKey).allowKey false
  let c := s.cursor
  let found ← takePlain s.inFlow (s.indent + 1) [] .none c.line c.column c.rest
  return ((s.push (scalarToken found.text .plain)).moveTo found.cursor).allowKey found.inNewLine

private def startsPlain (inFlow : Bool) (c : Char) (cs : List Char) : Bool :=
  if c == '-' then !cs.head?.any isSpace
  else if c == '?' || c == ':' then !inFlow && !isGap cs
  else
    !(isFlowMark c || c == '#' || c == '&' || c == '*' || c == '!' || c == '|' || c == '>'
      || c == '\'' || c == '"' || c == '%' || c == '@' || c.toNat == 96 || isSpace c || isBreak c)

private def step (s : Lexer) (c : Char) (cs : List Char) : Option Lexer :=
  let isLineStart := s.cursor.column == 0
  if isLineStart && c == '%' then s.directive
  else if isLineStart && isDocumentMark (c :: cs) then
    return (← s.leaveDocument).mark 3 (if c == '-' then .documentStart else .documentEnd)
  else if c == '[' then s.openFlow .flowSequenceStart
  else if c.toNat == 123 then s.openFlow .flowMappingStart
  else if c == ']' then s.closeFlow .flowSequenceEnd
  else if c.toNat == 125 then s.closeFlow .flowMappingEnd
  else if c == ',' then s.flowEntry
  else if c == '-' && isGap cs then s.blockMark .sequenceStart .entry true
  else if c == '?' && (s.inFlow || isGap cs) then s.blockMark .mappingStart .key !s.inFlow
  else if c == ':' && (s.inFlow || isGap cs) then s.value
  else if c == '*' then s.anchor .reference
  else if c == '&' then s.anchor .anchor
  else if c == '!' then s.tag
  else if c == '|' && !s.inFlow then s.blockScalar .literal
  else if c == '>' && !s.inFlow then s.blockScalar .folded
  else if c == '\'' then s.quotedScalar true
  else if c == '"' then s.quotedScalar false
  else if startsPlain s.inFlow c cs then s.plainScalar
  else none

/-- The tokens of the rest of the text, of which there are at most `n` besides ends of blocks. -/
private def run (n : Nat) (s : Lexer) : Option (List Token) := do
  let s ← s.toNextToken.dropStaleKeys
  let s := s.leaveBlocks s.column
  match s.cursor.rest, n with
  | [], _ => return (← (s.leaveBlocks (-1)).forgetKey).tokens.reverse
  | c :: cs, n + 1 => run n (← s.step c cs)
  | _, 0 => none

end Lexer

def Token.listOf? (text : String) : Option (List Token) := do
  let start ← Cursor.start? text
  Lexer.run start.rest.length ⟨start, [], -1, [], none, [], true⟩

end Graticule.Yaml
