/-!
# Arguments

The arguments of a program are options, some of them with a value, and the name of a command, which
has options of its own.  An option is given at most once.
-/

namespace Graticule.CommandLine

structure Choice where
  /-- The name after two hyphens. -/
  name : String
  /-- The letter after one hyphen. -/
  letter : Option Char
  takesValue : Bool
  /-- Whether a value that starts with a hyphen may follow as the next argument. -/
  hyphenated : Bool
  /-- The values that can be given. -/
  accepts : String → Bool

/-- The values given for options, by name; an option without a value has the empty one. -/
abbrev Given := List (String × String)

inductive Outcome where
  /-- The arguments break a rule. -/
  | refused
  /-- Help is asked for. -/
  | help
  /-- All arguments are options. -/
  | options (given : Given)
  /-- A command follows, with the arguments after it. -/
  | command (given : Given) (name : String) (rest : List String)

def helpName : String := "help"

private def startsOption (arg : String) : Bool :=
  match arg.toList with
  | '-' :: _ :: _ => true
  | _ => false

private def add (given : Given) (choice : Choice) (value : String) : Option Given :=
  if (given.lookup choice.name).isSome || !choice.accepts value then none
  else some ((choice.name, value) :: given)

/-- What an argument leads to: an end, more options given, or an option whose value is to follow. -/
private inductive Step where
  | stop (outcome : Outcome)
  | more (given : Given)
  | value (choice : Choice)

private def give (given : Given) (choice : Choice) (value : String) : Step :=
  match add given choice value with
  | some given => .more given
  | none => .stop .refused

/-- An argument after two hyphens: a name, or a name and a value with `=` between them. -/
private def longOption (choices : List Choice) (given : Given) (cs : List Char) : Step :=
  let name := String.ofList (cs.takeWhile (· != '='))
  let value := cs.dropWhile (· != '=')
  if name == helpName then
    if value.isEmpty then .stop .help else .stop .refused
  else
    match choices.find? (·.name == name) with
    | none => .stop .refused
    | some choice =>
      match choice.takesValue, value with
      | true, [] => .value choice
      | true, _ :: value => give given choice (String.ofList value)
      | false, [] => give given choice ""
      | false, _ :: _ => .stop .refused

/-- An argument after one hyphen: letters of options, the rest after one that takes a value being
its value. -/
private def shortOptions (choices : List Choice) (given : Given) : List Char → Step
  | [] => .more given
  | c :: cs =>
    if c == 'h' then .stop .help
    else
      match choices.find? (·.letter == some c) with
      | none => .stop .refused
      | some choice =>
        if choice.takesValue then
          match cs with
          | [] => .value choice
          | '=' :: value => give given choice (String.ofList value)
          | value => give given choice (String.ofList value)
        else
          match add given choice "" with
          | some given => shortOptions choices given cs
          | none => .stop .refused

/-- What arguments amount to, after some options were given and while one may wait for its value. -/
private def scan (choices : List Choice) (commands : List String) (given : Given)
    (waiting : Option Choice) : List String → Outcome
  | [] => if waiting.isSome then .refused else .options given
  | arg :: args =>
    match waiting with
    | some choice =>
      if startsOption arg && !choice.hyphenated then .refused
      else
        match add given choice arg with
        | some given => scan choices commands given none args
        | none => .refused
    | none =>
      let step : Step := match arg.toList with
        | ['-', '-'] => .stop (if args.isEmpty then .options given else .refused)
        | '-' :: '-' :: cs => longOption choices given cs
        | '-' :: c :: cs => shortOptions choices given (c :: cs)
        | _ =>
          if commands.contains arg then .stop (.command given arg args) else .stop .refused
      match step with
      | .stop outcome => outcome
      | .more given => scan choices commands given none args
      | .value choice => scan choices commands given (some choice) args

def outcome (choices : List Choice) (commands : List String) (args : List String) : Outcome :=
  scan choices commands [] none args

end Graticule.CommandLine
