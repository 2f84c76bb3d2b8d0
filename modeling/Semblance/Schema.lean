import Semblance.Knowledge

/-!
# Built-in schemas

The schemas that every registry falls back on. Each of those for maps refuses arguments of the
wrong shape.
-/

namespace Semblance.Schema

open Pattern (CompileError)

/-- The entries of a map that names a schema. -/
abbrev Arguments := List (String × Pattern)

/-- `/source/flags`. A malformed body makes a matcher that never matches, so that the rest of the
pattern around it still compiles. -/
def regexp : StringSchema := fun _ body =>
  match RegexTest.parse body with
  | .ok test => .ok (.regexp test)
  | .error _ => .ok .never

def nameList (schema : String) : List Pattern → Except CompileError (List String)
  | [] => .ok []
  | .string name :: rest => do return name :: (← nameList schema rest)
  | other :: _ =>
      .error (.invalidSchemaArgument schema s!"'fields' entries must be strings, got {other.dump}")

/-- The argument `fields`, a list of names. -/
def fieldNames (schema : String) (arguments : Arguments) : Except CompileError (List String) :=
  match arguments.lookup "fields" with
  | some (.sequence items) => nameList schema items
  | _ => .error (.invalidSchemaArgument schema "'fields' must be an array of strings")

/-- An optional bound, a natural number. -/
def bound (schema : String) (arguments : Arguments) (key : String) :
    Except CompileError (Option Nat) :=
  match arguments.lookup key with
  | none | some .null => .ok none
  | some (.number n) =>
      match n.toNat? with
      | some bound => .ok (some bound)
      | none =>
          .error (.invalidSchemaArgument schema s!"'{key}' must be a non-negative integer")
  | some other =>
      .error (.invalidSchemaArgument schema
        s!"'{key}' must be a non-negative integer, got {other.dump}")

def objectHas : ObjectSchema := fun _ arguments => do
  return .objectHas (← fieldNames "Object.has" arguments)

def objectHasNot : ObjectSchema := fun _ arguments => do
  return .objectHasNot (← fieldNames "Object.hasNot" arguments)

/-- `forAll` that is no list. -/
def missingParts : CompileError :=
  .invalidSchemaArgument "and" "'forAll' must be an array of patterns"

/-- All patterns of the list `forAll` have to match. -/
def and : ObjectSchema := fun compile arguments =>
  match arguments.lookup "forAll" with
  | some (.sequence items) => do return .arrayAnd (← items.mapM compile)
  | _ => .error missingParts

/-- A text whose length is `eq`, or lies between `min` and `max` if there is no `eq`. -/
def stringLength : ObjectSchema := fun _ arguments => do
  match ← bound "String.length" arguments "eq" with
  | some length => return .stringLength (some length) (some length)
  | none =>
      let min ← bound "String.length" arguments "min"
      let max ← bound "String.length" arguments "max"
      return .stringLength min max

/-- The built-in schemas for strings. -/
def strings : List (String × StringSchema) := [("Regexp", regexp)]

/-- The built-in schemas for maps. -/
def objects : List (String × ObjectSchema) := [
  ("Object.has", objectHas),
  ("Object.hasNot", objectHasNot),
  ("and", and),
  ("String.length", stringLength)]

end Semblance.Schema
