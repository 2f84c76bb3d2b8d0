import Semblance.Text.Quoted
import Semblance.Value

/-!
# Values as JSON text

`compact` has no blanks; `pretty` puts each item on a line of its own, two spaces deeper than what
holds it. Characters beyond ASCII are written as they are.
-/

namespace Semblance.Json

/-- The written form of one character of a JSON string. -/
def writeChar (c : Char) : String :=
  match c with
  | '"' => "\\\""
  | '\\' => "\\\\"
  | '\x08' => "\\b"
  | '\x0c' => "\\f"
  | '\n' => "\\n"
  | '\r' => "\\r"
  | '\t' => "\\t"
  | _ =>
      if c.toNat < 0x20 then
        "\\u00" ++ (if c.toNat < 0x10 then "0" else "") ++ Text.hex c.toNat
      else c.toString

def writeString (s : String) : String :=
  "\"" ++ String.join (s.toList.map writeChar) ++ "\""

mutual

def compact : Value → String
  | .null => "null"
  | .bool b => if b then "true" else "false"
  | .number n => n.toJson
  | .string s => writeString s
  | .array items => "[" ++ String.intercalate "," (compactItems items) ++ "]"
  | .object entries => "\x7b" ++ String.intercalate "," (compactEntries entries) ++ "\x7d"

def compactItems : List Value → List String
  | [] => []
  | item :: rest => compact item :: compactItems rest

def compactEntries : List (String × Value) → List String
  | [] => []
  | (key, value) :: rest => (writeString key ++ ":" ++ compact value) :: compactEntries rest

end

/-- The start of a line at a nesting level. -/
def newline (level : Nat) : String := "\n" ++ String.ofList (List.replicate (2 * level) ' ')

/-- Lay out written items between brackets. -/
def block (level : Nat) (opening closing : String) (items : List String) : String :=
  if items.isEmpty then opening ++ closing
  else
    opening ++ newline (level + 1) ++ String.intercalate ("," ++ newline (level + 1)) items ++
      newline level ++ closing

mutual

def prettyAt (level : Nat) : Value → String
  | .array items => block level "[" "]" (prettyItems (level + 1) items)
  | .object entries => block level "\x7b" "\x7d" (prettyEntries (level + 1) entries)
  | .null => "null"
  | .bool b => if b then "true" else "false"
  | .number n => n.toJson
  | .string s => writeString s

def prettyItems (level : Nat) : List Value → List String
  | [] => []
  | item :: rest => prettyAt level item :: prettyItems level rest

def prettyEntries (level : Nat) : List (String × Value) → List String
  | [] => []
  | (key, value) :: rest =>
      (writeString key ++ ": " ++ prettyAt level value) :: prettyEntries level rest

end

def pretty (value : Value) : String := prettyAt 0 value

end Semblance.Json
