import Semblance.Value.Coercion
import Semblance.Value.Dump

/-!
# Scopes

Where the names of an expression find their values: first the parameters with the arguments given
for them, then local bindings, then the fields of the caller's namespace.
-/

namespace Semblance

/-- Why an expression has no value. -/
inductive EvalError where
  | unknownIdentifier (name : String)
  | nullAccess (property : String)
  | unknownFunction (name : String)
  | arity (name : String) (expected got : Nat)
  | function (name : String) (message : String)
  | notANumber (kind : String)
  deriving DecidableEq, Repr

namespace EvalError

def message : EvalError → String
  | unknownIdentifier name => s!"Unknown identifier: {name}"
  | nullAccess property => s!"Cannot read property '{property}' of null"
  | unknownFunction name => s!"Unknown function: {name}"
  | arity name expected got => s!"{name}() takes {expected} argument(s), got {got}"
  | function name message => s!"{name}(): {message}"
  | notANumber kind => s!"Expected a number, got {kind}"

end EvalError

/-- A function that expressions can call. -/
abbrev NativeFunction := List Value → Except EvalError Value

/-- Fields and functions that a caller lends to expressions. -/
structure Namespace where
  fields : List (String × Value) := []
  functions : List (String × NativeFunction) := []

namespace Namespace

def empty : Namespace := {}

def get? (ns : Namespace) (name : String) : Option Value := ns.fields.lookup name

/-- Set a field. -/
def insert (ns : Namespace) (name : String) (value : Value) : Namespace :=
  { ns with fields := Entries.insert name value ns.fields }

def remove (ns : Namespace) (name : String) : Namespace :=
  { ns with fields := Entries.erase name ns.fields }

def function? (ns : Namespace) (name : String) : Option NativeFunction := ns.functions.lookup name

/-- Register a function, in place of one of that name. -/
def register (ns : Namespace) (name : String) (function : NativeFunction) : Namespace :=
  { ns with functions := Entries.insert name function ns.functions }

def dump (ns : Namespace) : String :=
  Dump.record "Namespace" [
    ("values", Dump.map (Value.dumpEntries ns.fields)),
    ("functions", Dump.list (ns.functions.map fun f => Text.quoted f.1))]

end Namespace

/-- The bindings that one evaluation sees. -/
structure Scope where
  params : List String
  args : List Value
  locals : List (String × Value) := []
  ns : Namespace := {}

namespace Scope

/-- The argument for a parameter; one that is missing reads as null. The first of several
parameters with one name counts. -/
def argument? (name : String) : List String → List Value → Option Value
  | [], _ => none
  | param :: params, args =>
      if param = name then some (args.headD .null) else argument? name params args.tail

/-- The value of a name. -/
def resolve? (scope : Scope) (name : String) : Option Value :=
  (argument? name scope.params scope.args).or
    ((scope.locals.lookup name).or (scope.ns.get? name))

end Scope

end Semblance
