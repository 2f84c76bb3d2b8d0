import Semblance.Value

/-!
# JSON documents

A document keeps the members of an object in the order of the text and keeps repeated names.
As a value it has its members sorted, and of members with one name the last.
-/

namespace Semblance.Json

inductive Document where
  | null
  | bool (value : Bool)
  | number (value : Number)
  | string (value : String)
  | array (items : List Document)
  | object (members : List (String × Document))

namespace Document

instance : Inhabited Document := ⟨null⟩

mutual

def toValue : Document → Value
  | null => .null
  | bool b => .bool b
  | number n => .number n
  | string s => .string s
  | array items => .array (toValues items)
  | object members => .object (Entries.ofList (toEntries members))

def toValues : List Document → List Value
  | [] => []
  | item :: rest => toValue item :: toValues rest

def toEntries : List (String × Document) → List (String × Value)
  | [] => []
  | (name, value) :: rest => (name, toValue value) :: toEntries rest

end

mutual

/-- A value as the document that is written for it. -/
def ofValue : Value → Document
  | .null => null
  | .bool b => bool b
  | .number n => number n
  | .string s => string s
  | .array items => array (ofValues items)
  | .object entries => object (ofEntries entries)

def ofValues : List Value → List Document
  | [] => []
  | item :: rest => ofValue item :: ofValues rest

def ofEntries : List (String × Value) → List (String × Document)
  | [] => []
  | (name, value) :: rest => (name, ofValue value) :: ofEntries rest

end

end Document

end Semblance.Json
