import Semblance.Cli.Report
import Semblance.Pattern.Compile

/-!
# Carrying out commands

A command reads its inputs and answers with what it prints. The path `-` stands for the standard
input, which can be read once and is empty afterwards; rule sets are always files.
-/

namespace Semblance.Cli

/-- The text of an input, or why it cannot be read. -/
abbrev Content := Except String String

instance : Coe String Content := ⟨.ok⟩

/-- What a command can read. -/
structure Inputs where
  file : String → Content
  /-- What is left of the standard input. -/
  stdin : Content

/-- Why a command has failed. -/
inductive Failure where
  | unreadable (path : String)
  | unreadableStdin
  | invalidJson (path : String)
  | namespaceKind (path kind : String)
  | pattern (error : Pattern.CompileError)
  | ruleSet (error : RuleSetError)

namespace Failure

def message : Failure → String
  | unreadable path => s!"Failed to read {path}"
  | unreadableStdin => "Failed to read stdin"
  | invalidJson path => s!"Invalid JSON in {path}"
  | namespaceKind path kind =>
      s!"Namespace file {path} must contain a JSON object, found {kind}"
  | pattern error => error.message
  | ruleSet error => error.message

end Failure

/-- What a command has printed, and why it has failed if it has. -/
structure Outcome where
  stdout : String := ""
  stderr : String := ""
  failure : Option Failure := none

/-- A step that reads inputs. -/
abbrev Reading := StateT Inputs (Except Failure)

/-- The text of a path. -/
def readText (path : String) : Reading String := fun inputs =>
  if path = "-" then
    match inputs.stdin with
    | .ok text => .ok (text, { inputs with stdin := "" })
    | .error _ => .error .unreadableStdin
  else
    match inputs.file path with
    | .ok text => .ok (text, inputs)
    | .error _ => .error (.unreadable path)

def readJson (path : String) : Reading Value := do
  match Json.readValue (← readText path) with
  | .ok value => return value
  | .error _ => throw (.invalidJson path)

def loadNamespace : Option String → Reading Namespace
  | none => return {}
  | some path => do
      match ← readJson path with
      | .object fields => return { fields }
      | value => throw (.namespaceKind path value.kindName)

def loadMatcher (path : String) (ns : Option String) : Reading Matcher := do
  let knowledge := Knowledge.withExpressions (← loadNamespace ns)
  let value ← readJson path
  match Pattern.compile knowledge (.ofValue value) with
  | .ok matcher => return matcher
  | .error error => throw (.pattern error)

def loadRules (path : String) : Reading RuleSet := fun inputs =>
  match inputs.file path with
  | .error reason => .error (.ruleSet (.unreadable reason))
  | .ok text =>
      match RuleSet.ofJson text with
      | .ok set => .ok (set, inputs)
      | .error error => .error (.ruleSet error)

/-- Finish a command with what a step has read, or with the failure of the step. -/
def finish {α : Type} (stderr : String) (step : Reading α) (inputs : Inputs)
    (next : α → Inputs → Outcome) : Outcome :=
  match step inputs with
  | .error failure => { stderr, failure := some failure }
  | .ok (a, inputs) => next a inputs

def notes (verbose : Bool) (lines : List String) : String := if verbose then unlines lines else ""

def runTest (format : Format) (verbose : Bool) (pattern : String) (values : List String)
    (ns : Option String) (inputs : Inputs) : Outcome :=
  finish "" (loadMatcher pattern ns) inputs fun matcher inputs =>
    let stderr := notes verbose [s!"Compiled pattern {pattern} ({matcher.kindName})"]
    let verdicts : Reading (List Verdict) := values.mapM fun path => do
      let value ← readJson path
      return { file := path, matched := matcher.test value }
    finish stderr verdicts inputs fun verdicts _ =>
      { stdout := Verdict.report format verdicts, stderr }

def runScore (format : Format) (verbose : Bool) (paths : ScoredPaths) (ns : Option String)
    (inputs : Inputs) : Outcome :=
  finish "" (loadRules paths.rules) inputs fun set inputs =>
    let loaded := s!"Loaded {set.size} rules from {paths.rules}"
    let subjects : Reading (Value × Value × Namespace) := do
      let left ← readJson paths.left
      let right ← readJson paths.right
      return (left, right, ← loadNamespace ns)
    finish (notes verbose [loaded]) subjects inputs fun (left, right, ns) _ =>
      let x := set.execute left right ns
      let skipped := s!"{set.size - x.details.length} rules skipped on null extractions"
      { stdout := x.report format paths, stderr := notes verbose [loaded, skipped] }

def runCheck (format : Format) (verbose : Bool) (path : String) (inputs : Inputs) : Outcome :=
  finish "" (loadRules path) inputs fun set _ =>
    { stdout := set.report format verbose path }

def Invocation.run (i : Invocation) (inputs : Inputs) : Outcome :=
  match i.command with
  | .test pattern values ns => runTest i.format i.verbose pattern values ns inputs
  | .score rules left right ns => runScore i.format i.verbose { rules, left, right } ns inputs
  | .check rules => runCheck i.format i.verbose rules inputs

/-- The paths that a command may read as files. -/
def Invocation.paths (i : Invocation) : List String :=
  match i.command with
  | .test pattern values ns => pattern :: values ++ ns.toList
  | .score rules left right ns => rules :: left :: right :: ns.toList
  | .check rules => [rules]

end Semblance.Cli
