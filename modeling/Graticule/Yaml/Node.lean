import Graticule.Yaml.Token.Lexer

/-!
# YAML nodes

The tokens of a document make up one node: a scalar, a sequence, a mapping or a reference to a node
with an anchor.  `Document.ofText?` reads the only document of a text.  Anchors are numbered by how
many names there are when a node gets its anchor, and a reference means the last node with the
number that its name has at that point.
-/

namespace Graticule.Yaml

inductive Node where
  /-- The node with the anchor of this number. -/
  | reference (anchor : Nat)
  | scalar (anchor : Option Nat) (tag : List Char) (text : String) (style : Style)
  | sequence (anchor : Option Nat) (items : List Node)
  | mapping (anchor : Option Nat) (members : List (Node × Node))
deriving Inhabited

namespace Node

def empty : Node := scalar none [] "" .plain

mutual

def anchored : Node → List (Nat × Node)
  | reference _ => []
  | scalar anchor tag text style =>
    (anchor.map fun n => (n, scalar anchor tag text style)).toList
  | sequence anchor items =>
    (anchor.map fun n => (n, sequence anchor items)).toList ++ anchoredItems items
  | mapping anchor members =>
    (anchor.map fun n => (n, mapping anchor members)).toList ++ anchoredMembers members

def anchoredItems : List Node → List (Nat × Node)
  | [] => []
  | v :: vs => anchored v ++ anchoredItems vs

def anchoredMembers : List (Node × Node) → List (Nat × Node)
  | [] => []
  | (k, v) :: ms => anchored k ++ anchored v ++ anchoredMembers ms

end

mutual

def marks : Node → Nat
  | sequence _ items => 2 + marksOfItems items
  | mapping _ members => 2 + marksOfMembers members
  | _ => 1

def marksOfItems : List Node → Nat
  | [] => 0
  | v :: vs => marks v + marksOfItems vs

def marksOfMembers : List (Node × Node) → Nat
  | [] => 0
  | (k, v) :: ms => marks k + marks v + marksOfMembers ms

end

def isReference : Node → Bool
  | reference _ => true
  | _ => false

end Node

/-! ## Tokens as nodes -/

/-- What is known while tokens are made into nodes. -/
private structure NodeReader where
  /-- The tokens that are left. -/
  tokens : List Token
  /-- The names of anchors and their numbers. -/
  names : List (String × Nat)
  /-- What handles stand for. -/
  handles : List (List Char × List Char)

private abbrev Reading := StateT NodeReader Option

namespace Reading

private def next? : Reading (Option Token) := do
  return (← get).tokens.head?

private def skip : Reading Unit :=
  modify fun s => ⟨s.tokens.tail, s.names, s.handles⟩

private def nextIs (ts : List Token) : Reading Bool := do
  match ← next? with
  | some t => return ts.contains t
  | none => return false

private def took (t : Token) : Reading Bool := do
  if ← nextIs [t] then skip; return true else return false

private def take (t : Token) : Reading Unit := do
  if ← took t then return else failure

private def anchorName? : Reading (Option String) := do
  match ← next? with
  | some (.anchor name) => skip; return some name
  | _ => return none

private def tag? : Reading (Option (List Char)) := do
  match ← next? with
  | some (.tag name) =>
    skip
    if name.handle.isEmpty then return some name.suffix
    else
      match (← get).handles.lookup name.handle with
      | some start => return some (start ++ name.suffix)
      | none => failure
  | _ => return none

private def properties : Reading (Option String × Option (List Char)) := do
  match ← anchorName? with
  | some name => return (some name, ← tag?)
  | none =>
    let tag ← tag?
    return (← if tag.isSome then anchorName? else pure none, tag)

private def number (name : String) : Reading Nat := do
  let s ← get
  let n := s.names.length
  set (⟨s.tokens, (name, n) :: s.names.filter (·.1 != name), s.handles⟩ : NodeReader)
  return n

mutual

/-- A node; `inBlock` outside flow collections, `asValue` where a sequence of the same indentation
may stand. -/
private def node (fuel : Nat) (inBlock asValue : Bool) : Reading Node :=
  match fuel with
  | 0 => failure
  | n + 1 => do
    match ← next? with
    | some (.reference name) =>
      skip
      match (← get).names.lookup name with
      | some anchor => return .reference anchor
      | none => failure
    | _ =>
      let (name, tag) ← properties
      let anchor ← name.mapM number
      match ← next? with
      | some (.scalar text style) =>
        skip
        return .scalar anchor (if tag == some ['!'] then [] else tag.getD []) text style
      | some .entry =>
        if asValue then return .sequence anchor (← entries n)
        else if name.isSome || tag.isSome then return .scalar anchor (tag.getD []) "" .plain
        else failure
      | some .flowSequenceStart => skip; return .sequence anchor (← flowItems n true)
      | some .flowMappingStart => skip; return .mapping anchor (← flowMembers n true)
      | t =>
        if inBlock && t == some .sequenceStart then
          skip
          let items ← entries n
          take .blockEnd
          return .sequence anchor items
        else if inBlock && t == some .mappingStart then
          skip
          return .mapping anchor (← members n)
        else if name.isSome || tag.isSome then return .scalar anchor (tag.getD []) "" .plain
        else failure

private def nodeUnless (fuel : Nat) (ends : List Token) (inBlock asValue : Bool) : Reading Node :=
  match fuel with
  | 0 => failure
  | n + 1 => do
    if ← nextIs ends then return .empty else node n inBlock asValue

private def entries (fuel : Nat) : Reading (List Node) :=
  match fuel with
  | 0 => failure
  | n + 1 => do
    if ← took .entry then
      let item ← nodeUnless n [.entry, .key, .value, .blockEnd] true false
      return item :: (← entries n)
    else return []

private def members (fuel : Nat) : Reading (List (Node × Node)) :=
  match fuel with
  | 0 => failure
  | n + 1 => do
    if ← took .blockEnd then return []
    else
      take .key
      let key ← nodeUnless n [.key, .value, .blockEnd] true true
      let value ← if ← took .value then nodeUnless n [.key, .value, .blockEnd] true true
        else pure .empty
      return (key, value) :: (← members n)

private def flowItems (fuel : Nat) (isFirst : Bool) : Reading (List Node) :=
  match fuel with
  | 0 => failure
  | n + 1 => do
    if ← took .flowSequenceEnd then return []
    else
      unless isFirst do take .flowEntry
      if ← took .flowSequenceEnd then return []
      else if ← took .key then
        let pair ← flowPair n
        return .mapping none [pair] :: (← flowItems n false)
      else
        let item ← node n false false
        return item :: (← flowItems n false)

/-- The only member of a mapping without braces in a flow sequence.  Where the key is missing the
token that comes in its place is passed over. -/
private def flowPair (fuel : Nat) : Reading (Node × Node) :=
  match fuel with
  | 0 => failure
  | n + 1 => do
    let ends := [.flowEntry, .flowSequenceEnd]
    let key ← if ← nextIs (.value :: ends) then skip; pure .empty else node n false false
    let value ← if ← took .value then nodeUnless n ends false false else pure .empty
    return (key, value)

private def flowMembers (fuel : Nat) (isFirst : Bool) : Reading (List (Node × Node)) :=
  match fuel with
  | 0 => failure
  | n + 1 => do
    if ← took .flowMappingEnd then return []
    else
      unless isFirst do take .flowEntry
      let ends := [.flowEntry, .flowMappingEnd]
      if ← took .flowMappingEnd then return []
      else if ← took .key then
        let key ← nodeUnless n (.value :: ends) false false
        let value ← if ← took .value then nodeUnless n ends false false else pure .empty
        return (key, value) :: (← flowMembers n false)
      else
        let key ← node n false false
        return (key, .empty) :: (← flowMembers n false)

end

/-! ## Documents -/

/-- The directives in front of a document: at most one version, which is 1.1 or 1.2, and handles. -/
private def directives (hasVersion : Bool) (handles : List (List Char × List Char)) :
    List Token → Option (List Token × List (List Char × List Char))
  | .version major minor :: ts =>
    if hasVersion || major != 1 || (minor != 1 && minor != 2) then none
    else directives true handles ts
  | .handle name start :: ts =>
    if (handles.lookup name).isSome then none
    else directives hasVersion ((name, start) :: handles) ts
  | ts => some (ts, handles)

private def defaultHandles : List (List Char × List Char) :=
  [(['!'], ['!']), (['!', '!'], "tag:yaml.org,2002:".toList)]

private def document? (ts : List Token) : Option (Node × List Token) := do
  let (rest, handles) ← directives false [] ts
  let fuel := 4 * rest.length + 8
  let start (rest : List Token) : NodeReader := ⟨rest, [], handles ++ defaultHandles⟩
  match rest with
  | .documentStart :: rest =>
    match rest with
    | [] | .documentStart :: _ | .documentEnd :: _ | .version _ _ :: _ | .handle _ _ :: _ =>
      return (.empty, rest)
    | rest =>
      let (root, s) ← (node fuel true false).run (start rest)
      return (root, s.tokens)
  | rest =>
    if ts.length == rest.length then
      let (root, s) ← (node fuel true false).run (start rest)
      return (root, s.tokens)
    else none

end Reading

structure Document where
  root : Option Node
  /-- The nodes with anchors, the last ones first. -/
  anchored : List (Nat × Node)

namespace Document

def empty : Document := ⟨none, []⟩

def ofNode (root : Node) : Document := ⟨some root, root.anchored.reverse⟩

def ofText? (text : String) : Option Document := do
  match ← Token.listOf? text with
  | [] => return empty
  | ts =>
    let (root, rest) ← Reading.document? ts
    if rest.all (· == .documentEnd) then return ofNode root else none

/-- The node that a node stands for: for a reference the node with its anchor. -/
def target (d : Document) (v : Node) : Node :=
  match v with
  | .reference anchor => (d.anchored.lookup anchor).getD .empty
  | v => v

/-- Nodes may be read one after the other: no more of them are references than a hundred times the
number of marks in the document. -/
def allows (d : Document) (nodes : List Node) : Bool :=
  nodes.countP (·.isReference) ≤ 100 * (d.root.map (·.marks)).getD 0

end Document

end Graticule.Yaml
