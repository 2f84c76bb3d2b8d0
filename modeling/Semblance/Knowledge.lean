import Semblance.Matcher
import Semblance.Pattern.Error

/-!
# Knowledge

A registry of schemas that a caller adds to the built-in ones, or puts in their place. A schema
turns its argument into a matcher and is given a compiler for the patterns within the argument.
-/

namespace Semblance

abbrev Compiler := Pattern → Except Pattern.CompileError Matcher

/-- A schema for strings such as `name:body`, from the body. -/
abbrev StringSchema := Compiler → String → Except Pattern.CompileError Matcher

/-- A schema for maps that name it, from all their entries. -/
abbrev ObjectSchema := Compiler → List (String × Pattern) → Except Pattern.CompileError Matcher

structure Knowledge where
  strings : List (String × StringSchema) := []
  objects : List (String × ObjectSchema) := []

namespace Knowledge

def empty : Knowledge := {}

def string? (k : Knowledge) (name : String) : Option StringSchema := k.strings.lookup name

def object? (k : Knowledge) (name : String) : Option ObjectSchema := k.objects.lookup name

/-- Register a schema for strings, in place of one of that name. -/
def registerString (k : Knowledge) (name : String) (schema : StringSchema) : Knowledge :=
  { k with strings := Entries.insert name schema k.strings }

/-- Register a schema for maps, in place of one of that name. -/
def registerObject (k : Knowledge) (name : String) (schema : ObjectSchema) : Knowledge :=
  { k with objects := Entries.insert name schema k.objects }

def stringNames (k : Knowledge) : List String := k.strings.map Prod.fst

def objectNames (k : Knowledge) : List String := k.objects.map Prod.fst

def dump (k : Knowledge) : String :=
  Dump.record "Knowledge" [
    ("string", Dump.list (k.stringNames.map Text.quoted)),
    ("object", Dump.list (k.objectNames.map Text.quoted))]

end Knowledge

end Semblance
