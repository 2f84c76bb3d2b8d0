import Semblance.Text.Quoted
import Semblance.Value

/-!
# Structural dumps

How values and their containers are shown to a developer: each with the name of its kind.
-/

namespace Semblance

namespace Dump

def list (items : List String) : String := "[" ++ String.intercalate ", " items ++ "]"

/-- Entries under quoted keys. -/
def map (entries : List (String × String)) : String :=
  "\x7b" ++ String.intercalate ", " (entries.map fun e => Text.quoted e.1 ++ ": " ++ e.2) ++ "\x7d"

private def fieldTexts (fields : List (String × String)) : String :=
  String.intercalate ", " (fields.map fun f => f.1 ++ ": " ++ f.2)

/-- A structure with named fields. -/
def record (name : String) (fields : List (String × String)) : String :=
  name ++ " \x7b " ++ fieldTexts fields ++ " \x7d"

/-- A structure of which some fields are not shown. -/
def openRecord (name : String) (fields : List (String × String)) : String :=
  name ++ " \x7b " ++ fieldTexts fields ++ ", .. \x7d"

end Dump

namespace Value

mutual

def dump : Value → String
  | null => "Null"
  | bool b => if b then "Bool(true)" else "Bool(false)"
  | number n => "Number(" ++ n.toJson ++ ")"
  | string s => "String(" ++ Text.quoted s ++ ")"
  | array items => "Array " ++ Dump.list (dumpItems items)
  | object entries => "Object " ++ Dump.map (dumpEntries entries)

def dumpItems : List Value → List String
  | [] => []
  | item :: rest => dump item :: dumpItems rest

def dumpEntries : List (String × Value) → List (String × String)
  | [] => []
  | (key, value) :: rest => (key, dump value) :: dumpEntries rest

end

end Value

end Semblance
