import Semblance.Cli.Run

/-!
# The command line program
-/

namespace Semblance.Cli

def usage : String :=
  "Usage: semblance [-v] [-f text|json|tsv] COMMAND

Commands:
  test PATTERN VALUE...       test JSON values against a pattern
  score RULES LEFT RIGHT      score two JSON subjects with a rule set
  check RULES                 compile a rule set and list its rules

Options:
  -f, --format FORMAT         text, json or tsv
  -v, --verbose               say more
      --namespace FILE        fields that expressions may use (test and score)
  -h, --help                  print this help
  -V, --version               print the version"

/-- What is printed for a command line that is not carried out. -/
def Refusal.message : Refusal → String
  | missingArgument => "a required argument is missing"
  | unknownArgument => "an argument is not known"
  | invalidValue => "a value is missing or not allowed"
  | unexpectedValue => "an option does not take a value"
  | repeatedOption => "an option cannot be given twice"
  | unknownCommand => "there is no such command"
  | missingCommand => "a command is missing"
  | help | helpForNothing => usage
  | version => "semblance 0.1.0"

/-- Help and the version that were asked for are no failures. -/
def Refusal.exitCode : Refusal → UInt32
  | help | version => 0
  | _ => 2

/-- Why an input cannot be read, with the number that the system gives the error. -/
def readReason : IO.Error → String
  | .noFileOrDirectory .. => "No such file or directory (os error 2)"
  | .permissionDenied .. => "Permission denied (os error 13)"
  | .inappropriateType .. => "Is a directory (os error 21)"
  | error => toString error

def readFile (path : String) : IO (String × Content) := do
  let text ← (IO.FS.readFile path).toBaseIO
  return (path, text.mapError readReason)

def readStdin : IO Content := do
  let text ← (← IO.getStdin).readToEnd.toBaseIO
  return text.mapError readReason

/-- Everything that the command may read. -/
def gather (i : Invocation) : IO Inputs := do
  let files ← i.paths.mapM readFile
  let stdin ← if i.paths.contains "-" then readStdin else pure ""
  return { file := fun path => (files.lookup path).getD (.error "no such file"), stdin }

end Semblance.Cli

open Semblance.Cli in
def main (words : List String) : IO UInt32 := do
  match Invocation.ofWords words with
  | .error refusal =>
      if refusal.exitCode = 0 then IO.println refusal.message else IO.eprintln refusal.message
      return refusal.exitCode
  | .ok i =>
      let outcome := i.run (← gather i)
      IO.eprint outcome.stderr
      IO.print outcome.stdout
      match outcome.failure with
      | none => return 0
      | some failure =>
          IO.eprintln s!"Error: {failure.message}"
          return 1
