import Semblance.Regex
import Semblance.Value.Dump

/-!
# Patterns

A pattern is what a caller writes down before it is compiled: a value, in which two further shapes
may stand, a compiled regular expression and a test of the caller's own.
-/

namespace Semblance

/-- A test that a caller brings along, with the text that shows it. -/
structure Tester where
  description : String
  accepts : Value → Bool

inductive Pattern where
  | null
  | bool (value : Bool)
  | number (value : Number)
  | string (value : String)
  | sequence (items : List Pattern)
  | map (entries : List (String × Pattern))
  | regex (regex : Regex)
  | tester (tester : Tester)

namespace Pattern

instance : Inhabited Pattern := ⟨null⟩

/-- The key under which a map names the schema that its entries are arguments of. -/
def schemaKey : String := "$"

/-- The schema that a map names. -/
def schemaOf? (entries : List (String × Pattern)) : Option String :=
  match entries.lookup schemaKey with
  | some (string name) => some name
  | _ => none

def schema? : Pattern → Option String
  | map entries => schemaOf? entries
  | _ => none

/-- The value that a primitive pattern stands for. -/
def literal? : Pattern → Option Value
  | null => some .null
  | bool b => some (.bool b)
  | number n => some (.number n)
  | string s => some (.string s)
  | _ => none

mutual

/-- Lists and maps are one deeper than the deepest of their parts; all else has depth one. -/
def depth : Pattern → Nat
  | sequence items => 1 + depthOfItems items
  | map entries => 1 + depthOfEntries entries
  | _ => 1

def depthOfItems : List Pattern → Nat
  | [] => 0
  | item :: rest => max (depth item) (depthOfItems rest)

def depthOfEntries : List (String × Pattern) → Nat
  | [] => 0
  | (_, value) :: rest => max (depth value) (depthOfEntries rest)

end

mutual

def ofValue : Value → Pattern
  | .null => null
  | .bool b => bool b
  | .number n => number n
  | .string s => string s
  | .array items => sequence (ofItems items)
  | .object entries => map (ofEntries entries)

def ofItems : List Value → List Pattern
  | [] => []
  | item :: rest => ofValue item :: ofItems rest

def ofEntries : List (String × Value) → List (String × Pattern)
  | [] => []
  | (key, value) :: rest => (key, ofValue value) :: ofEntries rest

end

mutual

/-- How a pattern is shown to a developer. -/
def dump : Pattern → String
  | null => "null"
  | bool b => if b then "true" else "false"
  | number n => n.toJson
  | string s => Text.quoted s
  | sequence items => Dump.list (dumpItems items)
  | map entries => Dump.map (dumpEntries entries)
  | regex r => s!"/{r.source}/"
  | tester t => t.description

def dumpItems : List Pattern → List String
  | [] => []
  | item :: rest => dump item :: dumpItems rest

def dumpEntries : List (String × Pattern) → List (String × String)
  | [] => []
  | (key, value) :: rest => (key, dump value) :: dumpEntries rest

end

end Pattern

end Semblance
