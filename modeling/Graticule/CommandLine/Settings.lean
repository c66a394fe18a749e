import Graticule.Text.Alphanumeric
import Graticule.Text.Blank

/-!
# Settings

A file of settings has lines `NAME=value`.  Values may be quoted and may refer to other settings as
`$NAME` or `${NAME}`; inside double quotes a line break does not end the line.  What follows a line
that cannot be read is passed over.
-/

namespace Graticule.CommandLine

inductive Piece where
  | literal (c : Char)
  | reference (name : String)
deriving BEq, Repr

structure Setting where
  name : String
  value : List Piece
deriving BEq, Repr

namespace Setting

/-! ## Lines -/

/-- How far a line is read: what quotes are open, and whether a backslash or a blank came last. -/
private inductive LineState where
  | text
  | escape
  | double
  | doubleEscape
  | single
  | singleEscape
  | blank

private def LineState.next (state : LineState) (c : Char) : LineState :=
  match state with
  | text =>
    if Text.isBlank c && c != '\n' && c.toNat != 13 then .blank
    else if c == '\\' then .escape
    else if c == '"' then .double
    else if c == '\'' then .single
    else .text
  | escape => .text
  | double => if c == '\\' then .doubleEscape else if c == '"' then .text else .double
  | doubleEscape => .double
  | single => if c == '\\' then .singleEscape else if c == '\'' then .text else .single
  | singleEscape => .single
  | blank =>
    if c == '\\' then .escape else if c == '"' then .double else if c == '\'' then .single
    else .text

private def LineState.isText : LineState → Bool
  | text => true
  | _ => false

private def LineState.isBlank : LineState → Bool
  | blank => true
  | _ => false

/-- How far a line is read at its end, or the column of the mark that starts a comment in it. -/
private inductive LineEnd where
  | reached (state : LineState)
  | comment (column : Nat)

/-- Reads a line from a column on; a mark after a blank starts a comment. -/
private def LineState.over (state : LineState) (column : Nat) : List Char → LineEnd
  | [] => .reached state
  | c :: cs =>
    if c == '#' && state.isBlank then .comment column else (state.next c).over (column + 1) cs

private def linesOf : List Char → List (List Char)
  | [] => []
  | c :: cs =>
    if c == '\n' then [c] :: linesOf cs
    else
      match linesOf cs with
      | line :: lines => (c :: line) :: lines
      | [] => [[c]]

/-- The lines of settings, each of which is one line or several that quotes join; `none` stands for
one without an end. -/
private def joined (state : LineState) (read : List Char) :
    List (List Char) → List (Option (List Char))
  | [] => if state.isText then [] else [none]
  | line :: lines =>
    let text := read ++ line
    if (Text.trimStart text).head? == some '#' then joined .text [] lines
    else
      match state.over 0 line with
      | .comment column => some (read ++ line.take column) :: joined .text [] lines
      | .reached state =>
        if state.isText then some text :: joined .text [] lines else joined state text lines

/-! ## Values -/

private inductive ValueState where
  | text
  | single
  | double
  | escape (inDouble : Bool)
  /-- Letters and digits belong to the name of a reference. -/
  | reference (inDouble braced : Bool) (name : List Char)
  | done

private def unescaped (inDouble : Bool) : ValueState := if inDouble then .double else .text

private def referTo (name : List Char) : List Piece :=
  if name.isEmpty then [] else [.reference (String.ofList name.reverse)]

private def piecesFrom (state : ValueState) : List Char → Option (List Piece)
  | [] =>
    match state with
    | .single => none
    | .double => none
    | .escape inDouble => if inDouble then none else some []
    | .reference inDouble braced name => if inDouble || braced then none else some (referTo name)
    | .text => some []
    | .done => some []
  | c :: cs =>
    match state with
    | .done =>
      if c == ' ' || c == '\t' then piecesFrom .done cs else if c == '#' then some [] else none
    | .escape inDouble =>
      if c == '\\' || c == '\'' || c == '"' || c == '$' || c == ' ' then
        (piecesFrom (unescaped inDouble) cs).map (.literal c :: ·)
      else if c == 'n' then (piecesFrom (unescaped inDouble) cs).map (.literal '\n' :: ·)
      else none
    | .single =>
      if c == '\'' then piecesFrom .text cs else (piecesFrom .single cs).map (.literal c :: ·)
    | .reference inDouble braced name =>
      if Text.isAlphanumeric c then piecesFrom (.reference inDouble braced (c :: name)) cs
      else if braced then
        if c.toNat == 125 then (piecesFrom (unescaped inDouble) cs).map (referTo name ++ ·)
        else piecesFrom (.reference inDouble true (c :: name)) cs
      else if c.toNat == 123 && name.isEmpty then piecesFrom (.reference inDouble true []) cs
      else if c == '$' then
        (piecesFrom (.reference inDouble false []) cs).map (referTo name ++ ·)
      else
        (piecesFrom (unescaped inDouble) cs).map fun pieces => referTo name ++ .literal c :: pieces
    | .double =>
      if c == '$' then piecesFrom (.reference true false []) cs
      else if c == '"' then piecesFrom .text cs
      else if c == '\\' then piecesFrom (.escape true) cs
      else (piecesFrom .double cs).map (.literal c :: ·)
    | .text =>
      if c == '$' then piecesFrom (.reference false false []) cs
      else if c == '\'' then piecesFrom .single cs
      else if c == '"' then piecesFrom .double cs
      else if c == '\\' then piecesFrom (.escape false) cs
      else if c == ' ' || c == '\t' then piecesFrom .done cs
      else (piecesFrom .text cs).map (.literal c :: ·)

/-! ## Settings -/

private def takeName? (cs : List Char) : Option (String × List Char) :=
  match cs with
  | [] => none
  | c :: _ =>
    if c.isAlpha || c == '_' then
      let (name, rest) := cs.span fun c => c.isAlphanum || c == '_' || c == '.'
      some (String.ofList name, Text.trimStart rest)
    else none

private def takeEquals? : List Char → Option (List Char)
  | '=' :: cs => some (Text.trimStart cs)
  | _ => none

private inductive Line where
  | nothing
  | setting (s : Setting)
  | malformed

private def settingOf (name : String) (cs : List Char) : Line :=
  match cs with
  | [] => .setting ⟨name, []⟩
  | '#' :: _ => .setting ⟨name, []⟩
  | cs =>
    match piecesFrom .text cs with
    | some pieces => .setting ⟨name, pieces⟩
    | none => .malformed

private def lineOf (cs : List Char) : Line :=
  match Text.trim cs with
  | [] => .nothing
  | '#' :: _ => .nothing
  | cs =>
    match takeName? cs with
    | none => .malformed
    | some (name, rest) =>
      match takeEquals? rest with
      | some value => settingOf name value
      | none =>
        if name == "export" then
          match takeName? rest with
          | some (name, rest) =>
            match takeEquals? rest with
            | some value => settingOf name value
            | none => .malformed
          | none => .malformed
        else .malformed

private def settingsIn : List (Option (List Char)) → List Setting
  | [] => []
  | none :: _ => []
  | some line :: lines =>
    match lineOf line with
    | .nothing => settingsIn lines
    | .setting s => s :: settingsIn lines
    | .malformed => []

def listOf (text : String) : List Setting :=
  let cs := match text.toList with
    | '\ufeff' :: cs => cs
    | cs => cs
  settingsIn (joined .text [] (linesOf cs))

end Setting

abbrev Variables := List (String × String)

/-- The value of a variable: the one it has already, else the one that settings gave it. -/
private def valueOf {m : Type → Type} [Monad m] (lookup : String → m (Option String))
    (known : Variables) (name : String) : m (Option String) := do
  return (← lookup name) <|> known.lookup name

private def expand {m : Type → Type} [Monad m] (value : String → m (Option String)) :
    List Piece → m String
  | [] => pure ""
  | .literal c :: pieces => return c.toString ++ (← expand value pieces)
  | .reference name :: pieces => do
    return ((← value name).getD "") ++ (← expand value pieces)

/-- The variables that settings add to those that have a value already; the first setting of a name
counts. -/
def variablesOf {m : Type → Type} [Monad m] (lookup : String → m (Option String))
    (settings : List Setting) : m Variables :=
  settings.foldlM (fun known setting => do
    let text ← expand (valueOf lookup known) setting.value
    match ← valueOf lookup known setting.name with
    | some _ => return known
    | none => return (setting.name, text) :: known) []

end Graticule.CommandLine
