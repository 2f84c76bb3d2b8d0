import Semblance.Json.Document
import Semblance.Rule

/-!
# Rules as documents

A rule is written as an object with named fields, or as a list of them in a fixed order. Unknown
fields are ignored and known ones may not be repeated.
-/

namespace Semblance.Rule

open Json (Document)

/-- The fields in the order in which a list gives them. -/
def fieldNames : List String :=
  ["category", "criteria", "context", "strength", "extractor", "against", "scorer"]

/-- A field that need not be there; `none` if it is repeated. -/
def field? (name : String) (members : List (String × Document)) : Option (Option Document) :=
  match members.filter (·.1 = name) with
  | [] => some none
  | [member] => some (some member.2)
  | _ => none

def text? : Document → Option String
  | .string s => some s
  | _ => none

/-- A text that is empty if it is missing. -/
def textOrEmpty? : Option Document → Option String
  | none => some ""
  | some document => text? document

/-- A text that may be missing or null. -/
def optionalText? : Option Document → Option (Option String)
  | none | some .null => some none
  | some document => (text? document).map some

/-- A number that may be missing or null. -/
def optionalNumber? : Option Document → Option (Option Float)
  | none | some .null => some none
  | some (.number n) => some (some n.toFloat)
  | _ => none

def ofMembers? (members : List (String × Document)) : Option Rule := do
  let category ← textOrEmpty? (← field? "category" members)
  let criteria ← text? (← (← field? "criteria" members))
  let context ← textOrEmpty? (← field? "context" members)
  let strength ← optionalNumber? (← field? "strength" members)
  let extractor ← optionalText? (← field? "extractor" members)
  let against ← optionalText? (← field? "against" members)
  let scorer ← optionalText? (← field? "scorer" members)
  return { category, criteria, context, strength, extractor, against, scorer }

def ofDocument? : Document → Option Rule
  | .object members => ofMembers? members
  | .array items =>
      if items.length ≤ fieldNames.length then ofMembers? (fieldNames.zip items) else none
  | _ => none

/-- A rule as a value, without the options that are not set. -/
def toValue (r : Rule) : Value :=
  let option (name : String) (value : Option Value) : List (String × Value) :=
    (value.map fun v => (name, v)).toList
  .object <| Entries.ofList <|
    [("category", .string r.category), ("criteria", .string r.criteria),
      ("context", .string r.context)]
    ++ option "strength" (r.strength.map .float)
    ++ option "extractor" (r.extractor.map .string)
    ++ option "against" (r.against.map .string)
    ++ option "scorer" (r.scorer.map .string)

end Semblance.Rule
