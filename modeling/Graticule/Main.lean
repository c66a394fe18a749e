import Graticule.CommandLine.Program

/-!
# Command line

Arguments, files and variables of the running program.
-/

namespace Graticule.CommandLine

def contentsOf (file : String) : IO (Option String) :=
  try return some (← IO.FS.readFile file)
  catch _ => return none

def settingsFile : String := ".env"

def deepestDirectory : Nat := 64

/-- The contents of a file here or in the nearest directory above that has it, at most `n` of them
being looked through. -/
def contentsAbove (file : String) : Nat → IO (Option String)
  | 0 => return none
  | n + 1 => do
    match ← contentsOf file with
    | some text => return some text
    | none => contentsAbove ("../" ++ file) n

def host : Host IO where
  contents := contentsOf
  settings := contentsAbove settingsFile deepestDirectory
  environment name := IO.getEnv name

end Graticule.CommandLine

open Graticule.CommandLine in
def main (args : List String) : IO UInt32 := do
  let reply ← Program.reply host args
  IO.print reply.output
  IO.eprint reply.complaint
  return UInt32.ofNat reply.code
