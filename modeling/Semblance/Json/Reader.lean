import Semblance.Json.Document
import Semblance.Json.Numeral
import Semblance.Text.Bytes

/-!
# Reading JSON text

The reader goes from left to right and reports the first fault. Arrays and objects nest at most
127 deep.
-/

namespace Semblance.Json

namespace Reader

def isBlank (c : Char) : Bool := c == ' ' || c == '\n' || c == '\t' || c == '\r'

def skipBlanks (cs : List Char) : List Char := cs.dropWhile isBlank

/-- The rest of a text after a fixed word. -/
def expect : List Char → List Char → Except Fault (List Char)
  | [], cs => .ok cs
  | _ :: _, [] => .error .cutOff
  | w :: word, c :: cs => if w = c then expect word cs else .error .malformed

def hexValue (c : Char) : Option Nat :=
  if '0' ≤ c ∧ c ≤ '9' then some (c.toNat - '0'.toNat)
  else if 'a' ≤ c ∧ c ≤ 'f' then some (c.toNat - 'a'.toNat + 10)
  else if 'A' ≤ c ∧ c ≤ 'F' then some (c.toNat - 'A'.toNat + 10)
  else none

/-- Four hexadecimal digits. Too few bytes are told apart from other characters. -/
def readHex4 (cs : List Char) : Except Fault (Nat × List Char) :=
  if Text.byteLength (cs.take 4) < 4 then .error .cutOff
  else
    match cs with
    | a :: b :: c :: d :: rest =>
        match hexValue a, hexValue b, hexValue c, hexValue d with
        | some a, some b, some c, some d => .ok (4096 * a + 256 * b + 16 * c + d, rest)
        | _, _, _, _ => .error .malformed
    | _ => .error .malformed

/-- The character of a `\u` escape. A code of the high half of a pair needs the low half next. -/
def readUnicodeEscape (cs : List Char) : Except Fault (Char × List Char) := do
  let (code, rest) ← readHex4 cs
  if 0xDC00 ≤ code ∧ code ≤ 0xDFFF then .error .malformed
  else if 0xD800 ≤ code ∧ code ≤ 0xDBFF then
    let rest ← expect ['\\', 'u'] rest
    let (low, rest) ← readHex4 rest
    if 0xDC00 ≤ low ∧ low ≤ 0xDFFF then
      .ok (Char.ofNat (0x10000 + (code - 0xD800) * 0x400 + (low - 0xDC00)), rest)
    else .error .malformed
  else .ok (Char.ofNat code, rest)

/-- The character of an escape of one letter. -/
def shortEscape (c : Char) : Option Char :=
  match c with
  | '"' => some '"'
  | '\\' => some '\\'
  | '/' => some '/'
  | 'b' => some '\x08'
  | 'f' => some '\x0c'
  | 'n' => some '\n'
  | 'r' => some '\r'
  | 't' => some '\t'
  | _ => none

/-- The characters of a string after its opening quote, collected in reverse. -/
def readString : Nat → List Char → List Char → Except Fault (String × List Char)
  | 0, _, _ => .error .cutOff
  | _ + 1, _, [] => .error .cutOff
  | fuel + 1, done, c :: rest =>
      match c with
      | '"' => .ok (String.ofList done.reverse, rest)
      | '\\' =>
          match rest with
          | [] => .error .cutOff
          | 'u' :: rest =>
              match readUnicodeEscape rest with
              | .error fault => .error fault
              | .ok (c, rest) => readString fuel (c :: done) rest
          | e :: rest =>
              match shortEscape e with
              | some c => readString fuel (c :: done) rest
              | none => .error .malformed
      | _ =>
          if c.toNat < 0x20 then .error .malformed else readString fuel (c :: done) rest

/-- A name and the colon after it. -/
def readName (fuel : Nat) (cs : List Char) : Except Fault (String × List Char) := do
  let (name, rest) ← readString fuel [] cs
  match skipBlanks rest with
  | [] => .error .cutOff
  | ':' :: rest => .ok (name, rest)
  | _ => .error .malformed

mutual

/-- A value that may open `depth` more levels. -/
def readValue : Nat → Nat → List Char → Except Fault (Document × List Char)
  | 0, _, _ => .error .cutOff
  | fuel + 1, depth, cs =>
      match skipBlanks cs with
      | [] => .error .cutOff
      | 'n' :: rest => (expect "ull".toList rest).map (.null, ·)
      | 't' :: rest => (expect "rue".toList rest).map (.bool true, ·)
      | 'f' :: rest => (expect "alse".toList rest).map (.bool false, ·)
      | '"' :: rest => (readString fuel [] rest).map fun (s, rest) => (.string s, rest)
      | '[' :: rest =>
          match depth with
          | 0 => .error .malformed
          | depth + 1 => readItems fuel depth [] rest
      | '\x7b' :: rest =>
          match depth with
          | 0 => .error .malformed
          | depth + 1 => readMembers fuel depth [] rest
      | c :: rest =>
          if c = '-' ∨ Text.isAsciiDigit c then
            (Numeral.read (c :: rest)).map fun (n, rest) => (.number n, rest)
          else .error .malformed

/-- The items of an array, collected in reverse. -/
def readItems : Nat → Nat → List Document → List Char → Except Fault (Document × List Char)
  | 0, _, _, _ => .error .cutOff
  | fuel + 1, depth, done, cs =>
      match skipBlanks cs with
      | [] => .error .cutOff
      | ']' :: rest => .ok (.array done.reverse, rest)
      | ',' :: rest =>
          if done.isEmpty ∨ (skipBlanks rest).head? = some ']' then .error .malformed
          else
            match readValue fuel depth rest with
            | .error fault => .error fault
            | .ok (item, rest) => readItems fuel depth (item :: done) rest
      | c :: rest =>
          if done.isEmpty then
            match readValue fuel depth (c :: rest) with
            | .error fault => .error fault
            | .ok (item, rest) => readItems fuel depth [item] rest
          else .error .malformed

/-- The members of an object, collected in reverse. -/
def readMembers :
    Nat → Nat → List (String × Document) → List Char → Except Fault (Document × List Char)
  | 0, _, _, _ => .error .cutOff
  | fuel + 1, depth, done, cs =>
      match skipBlanks cs with
      | [] => .error .cutOff
      | '\x7d' :: rest => .ok (.object done.reverse, rest)
      | '"' :: rest =>
          if done.isEmpty then readMember fuel depth done rest else .error .malformed
      | ',' :: rest =>
          if done.isEmpty then .error .malformed
          else
            match skipBlanks rest with
            | [] => .error .cutOff
            | '"' :: rest => readMember fuel depth done rest
            | _ => .error .malformed
      | _ => .error .malformed

/-- One member after the opening quote of its name, and those that follow. -/
def readMember :
    Nat → Nat → List (String × Document) → List Char → Except Fault (Document × List Char)
  | 0, _, _, _ => .error .cutOff
  | fuel + 1, depth, done, cs =>
      match readName fuel cs with
      | .error fault => .error fault
      | .ok (name, rest) =>
          match readValue fuel depth rest with
          | .error fault => .error fault
          | .ok (value, rest) => readMembers fuel depth ((name, value) :: done) rest

end

end Reader

/-- How deep arrays and objects of a text may nest. -/
def maxDepth : Nat := 127

/-- The document at the start of a text, and what follows it. Every step of the reader but the one
into a member takes a character, so twice the length is fuel enough. -/
def readPrefix (depth : Nat) (cs : List Char) : Except Fault (Document × List Char) :=
  Reader.readValue (2 * cs.length + 2) depth cs

/-- Only blanks are left. -/
def atEnd (cs : List Char) : Bool := (Reader.skipBlanks cs).isEmpty

/-- Read a whole text. -/
def readDocument (depth : Nat) (text : String) : Except Fault Document := do
  let (document, rest) ← readPrefix depth text.toList
  if atEnd rest then .ok document else .error .malformed

/-- Read a whole text as a value. -/
def readValue (text : String) : Except Fault Value :=
  (readDocument maxDepth text).map Document.toValue

end Semblance.Json
