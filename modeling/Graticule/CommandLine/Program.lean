import Graticule.CommandLine.Arguments
import Graticule.CommandLine.Command
import Graticule.CommandLine.Settings
import Graticule.CommandLine.Values
import Graticule.Json.Printer

/-!
# The program

The program reads its arguments, runs one command and replies with JSON text.  Files and variables
come from a host, so that a reply can be found for any of them.
-/

namespace Graticule.CommandLine

structure Host (m : Type → Type) where
  /-- The contents of a file that can be read. -/
  contents : String → m (Option String)
  /-- The text of the file of settings. -/
  settings : m (Option String)
  /-- The value of a variable. -/
  environment : String → m (Option String)

structure Reply where
  /-- Zero for a result, one for a command that failed and two for arguments that break a rule. -/
  code : Nat
  output : String
  complaint : String
deriving BEq, Repr

namespace Program

/-! ## Options -/

private def textOption (name : String) (letter : Option Char) : Choice :=
  ⟨name, letter, true, false, fun _ => true⟩

private def fileOption (name : String) (letter : Char) : Choice :=
  ⟨name, some letter, true, false, fun value => !value.isEmpty⟩

private def switch (name : String) : Choice := ⟨name, none, false, false, fun _ => true⟩

private def isAxisPair (value : String) : Bool := (axisPair value).isOk

private def isNumber (value : String) : Bool := (Decimal.float? value).isSome

private def commonOptions : List Choice := [textOption "log-level" none, switch "pretty"]

private def coverOptions : List Choice :=
  [ fileOption "input" 'i', textOption "crs" none, ⟨"resolution", some 'r', true, true, isAxisPair⟩,
    textOption "to-crs" none, ⟨"align", none, true, false, isAxisPair⟩ ]

private def combineOptions : List Choice := [fileOption "grids" 'g']

private def reprojectOptions : List Choice :=
  [ fileOption "input" 'i', textOption "from" none, textOption "to" none,
    ⟨"resolution", none, true, false, isNumber⟩, switch "wrap-dateline" ]

private def commands : List (String × List Choice) :=
  [ ("from-geojson", coverOptions), ("union", combineOptions), ("intersect", combineOptions),
    ("reproject", reprojectOptions) ]

def defaultCrs : String := "EPSG:4326"

def crsVariable : String := "GEOBOX_CRS"

/-! ## Commands -/

private def pairGiven (given : Given) (name : String) : Option (AxisPair Float) :=
  (given.lookup name).bind fun value => (axisPair value).toOption

/-- The command of a name with its options, unless one that it needs is missing. -/
private def command? (name : String) (given : Given) (crs : String) : Option Command :=
  match name with
  | "from-geojson" => do
    return .cover (← given.lookup "input") ((given.lookup "crs").getD crs)
      (← pairGiven given "resolution") (given.lookup "to-crs") (pairGiven given "align")
  | "union" => return .union (← given.lookup "grids")
  | "intersect" => return .intersection (← given.lookup "grids")
  | "reproject" => do
    return .reproject (← given.lookup "input") ((given.lookup "from").getD defaultCrs)
      (← given.lookup "to")
      ⟨(given.lookup "resolution").bind Decimal.float?, (given.lookup "wrap-dateline").isSome⟩
  | _ => none

/-! ## Replies -/

def usage : String :=
  "Build, reconcile and reproject georeferenced pixel grids\n\n"
    ++ "Usage: geobox [OPTIONS] <COMMAND>\n\n"
    ++ "Commands:\n"
    ++ "  from-geojson  --input <FILE> --resolution <Y,X> [--crs <CRS>] [--to-crs <CRS>] "
    ++ "[--align <Y,X>]\n"
    ++ "  union         --grids <FILE>\n"
    ++ "  intersect     --grids <FILE>\n"
    ++ "  reproject     --input <FILE> --to <CRS> [--from <CRS>] [--resolution <LENGTH>] "
    ++ "[--wrap-dateline]\n\n"
    ++ "Options:\n"
    ++ "  --log-level <LEVEL>\n"
    ++ "  --pretty\n"
    ++ "  -h, --help\n"

private def helpReply : Reply := ⟨0, usage, ""⟩

private def refusal : Reply := ⟨2, "", "error: invalid arguments\n\n" ++ usage⟩

/-- A result on one line or spread over lines, or the fault in its place. -/
private def replyWith (isSpread : Bool) : Except CommandError (Json Float) → Reply
  | .ok v => ⟨0, (if isSpread then v.pretty else v.compact) ++ "\n", ""⟩
  | .error e => ⟨1, "", "Error: " ++ e.message ++ "\n"⟩

/-- The reply to a request for help on the commands that are named one inside the other. -/
private def helpOn : List String → Reply
  | [] => helpReply
  | [name] => if name == helpName || (commands.lookup name).isSome then helpReply else refusal
  | _ => refusal

variable {m : Type → Type} [Monad m]

private def variableOf (host : Host m) (name : String) : m (Option String) := do
  let added ← variablesOf host.environment (Setting.listOf ((← host.settings).getD ""))
  return (← host.environment name) <|> added.lookup name

private def replyToCommand (host : Host m) (common : Given) (name : String) (choices : List Choice)
    (args : List String) : m Reply := do
  match outcome (choices ++ commonOptions) [] args with
  | .help => return helpReply
  | .options given =>
    let crs := (← variableOf host crsVariable).getD defaultCrs
    match command? name given crs with
    | none => return refusal
    | some command =>
      let isSpread := (common.lookup "pretty").isSome || (given.lookup "pretty").isSome
      return replyWith isSpread (command.run (← host.contents command.file))
  | _ => return refusal

def reply (host : Host m) (args : List String) : m Reply := do
  match outcome commonOptions (helpName :: commands.map (·.1)) args with
  | .help => return helpReply
  | .command given name rest =>
    if name == helpName then return helpOn rest
    else
      match commands.lookup name with
      | some choices => replyToCommand host given name choices rest
      | none => return refusal
  | _ => return refusal

end Program

end Graticule.CommandLine
