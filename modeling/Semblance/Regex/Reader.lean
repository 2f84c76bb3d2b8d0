import Semblance.Regex.Tree
import Semblance.Text.Classes

/-!
# Reading regular expressions

`Tree.parse?` reads a source. Look-around, references to groups, unknown escapes and operators
without an operand are refused. In extended mode blanks and comments between the parts of a source
are skipped.
-/

namespace Semblance.Regex

open Text

/-- Drop blanks and comments; a comment runs from `#` to the end of the line. -/
def dropComments (inComment : Bool) : List Char → List Char
  | [] => []
  | c :: rest =>
      if inComment then dropComments (c ≠ '\n') rest
      else if isBlank c then dropComments false rest
      else if c = '#' then dropComments true rest
      else c :: rest

def skip (extended : Bool) (cs : List Char) : List Char :=
  if extended then dropComments false cs else cs

/-- The characters at the front that satisfy `keep`, passing over what extended mode skips. -/
def scanWhile (extended : Bool) (keep : Char → Bool) (inComment : Bool) :
    List Char → List Char × List Char
  | [] => ([], [])
  | c :: rest =>
      if inComment then scanWhile extended keep (c ≠ '\n') rest
      else if extended && isBlank c then scanWhile extended keep false rest
      else if extended && c == '#' then scanWhile extended keep true rest
      else if keep c then
        let (kept, rest) := scanWhile extended keep false rest
        (c :: kept, rest)
      else ([], c :: rest)

/-- The characters before a closing brace, and what follows it. -/
def scanBraced (extended : Bool) (cs : List Char) : Option (List Char × List Char) :=
  match scanWhile extended (· ≠ '\x7d') false cs with
  | (inside, _ :: rest) => some (inside, rest)
  | (_, []) => none

/-! ## Escapes -/

/-- What an escape, or a character on its own, stands for. -/
inductive Primitive where
  | literal (literal : Literal)
  | look (look : Look)
  | escape (cls : EscapeClass) (negated : Bool)

def isHexDigit (c : Char) : Bool :=
  isAsciiDigit c || ('a' ≤ c && c ≤ 'f') || ('A' ≤ c && c ≤ 'F')

def hexDigitValue (c : Char) : Nat :=
  if isAsciiDigit c then c.toNat - 48 else if 'a' ≤ c then c.toNat - 87 else c.toNat - 55

/-- The character whose code point is written in hexadecimal digits. -/
def hexChar? (digits : List Char) : Option Char :=
  let code := digits.foldl (fun n c => 16 * n + hexDigitValue c) 0
  if digits.isEmpty || !digits.all isHexDigit then none
  else if code.isValidChar then some (Char.ofNat code) else none

def takeHexDigits (extended : Bool) : Nat → List Char → Option (List Char × List Char)
  | 0, cs => some ([], cs)
  | n + 1, cs =>
      match skip extended cs with
      | [] => none
      | c :: rest => (takeHexDigits extended n rest).map fun (digits, rest) => (c :: digits, rest)

/-- A code point in braces, or in a fixed number of digits. -/
def readHex (extended : Bool) (digits : Nat) (cs : List Char) :
    Option (Primitive × List Char) := do
  match skip extended cs with
  | '\x7b' :: rest =>
      let (inside, rest) ← scanBraced extended rest
      return (.literal ⟨← hexChar? inside, false⟩, rest)
  | cs =>
      let (inside, rest) ← takeHexDigits extended digits cs
      return (.literal ⟨← hexChar? inside, digits == 2⟩, rest)

/-- Cut a text at the first place where a separator stands. -/
def cutAt? (sep : List Char) : List Char → Option (List Char × List Char)
  | [] => none
  | c :: rest =>
      if sep.isPrefixOf (c :: rest) then some ([], (c :: rest).drop sep.length)
      else (cutAt? sep rest).map fun (before, after) => (c :: before, after)

/-- A property by name, or with a value after `!=`, `:` or `=`; the first of these negates. -/
def readPropertyName (name : List Char) (negated : Bool) : Primitive :=
  match cutAt? ['!', '='] name with
  | some (key, value) => .escape (.valued key value) (!negated)
  | none =>
      match (cutAt? [':'] name).orElse fun _ => cutAt? ['='] name with
      | some (key, value) => .escape (.valued key value) negated
      | none => .escape (.property name) negated

def readProperty (extended negated : Bool) (cs : List Char) : Option (Primitive × List Char) :=
  match skip extended cs with
  | '\x7b' :: rest =>
      (scanBraced extended rest).map fun (name, rest) => (readPropertyName name negated, rest)
  | c :: rest => if c = '\\' then none else some (.escape (.property [c]) negated, rest)
  | [] => none

/-- The kind of word boundary that may follow `\b` in braces. Braces that start otherwise are left
for a repetition. -/
def readBoundaryKind (extended : Bool) (cs : List Char) : Option (Look × List Char) :=
  let isKindChar c := isAsciiLetter c || c == '-'
  match cs with
  | '\x7b' :: rest =>
      match skip extended rest with
      | [] => none
      | c :: inside =>
          -- The braces may still count repetitions of the boundary.
          if !isKindChar c then some (.word .boundary, cs)
          else
            match scanWhile extended isKindChar false (c :: inside) with
            | (kind, '\x7d' :: rest) =>
                match String.ofList kind with
                | "start" => some (.word .opening, rest)
                | "end" => some (.word .closing, rest)
                | "start-half" => some (.word .openingHalf, rest)
                | "end-half" => some (.word .closingHalf, rest)
                | _ => none
            | _ => none
  | _ => some (.word .boundary, cs)

/-- Marks that stand for themselves after a backslash: all of ASCII but letters, digits and the
angles that bound words. -/
def isEscapable (c : Char) : Bool :=
  c.toNat < 128 && !isAsciiLetter c && !isAsciiDigit c && c != '<' && c != '>'

/-- What follows a backslash. -/
def readEscape (extended : Bool) : List Char → Option (Primitive × List Char)
  | [] => none
  | 'x' :: rest => readHex extended 2 rest
  | 'u' :: rest => readHex extended 4 rest
  | 'U' :: rest => readHex extended 8 rest
  | 'p' :: rest => readProperty extended false rest
  | 'P' :: rest => readProperty extended true rest
  | 'd' :: rest => some (.escape .digit false, rest)
  | 'D' :: rest => some (.escape .digit true, rest)
  | 's' :: rest => some (.escape .blank false, rest)
  | 'S' :: rest => some (.escape .blank true, rest)
  | 'w' :: rest => some (.escape .word false, rest)
  | 'W' :: rest => some (.escape .word true, rest)
  | 'a' :: rest => some (.literal ⟨'\x07', false⟩, rest)
  | 'f' :: rest => some (.literal ⟨'\x0c', false⟩, rest)
  | 't' :: rest => some (.literal ⟨'\t', false⟩, rest)
  | 'n' :: rest => some (.literal ⟨'\n', false⟩, rest)
  | 'r' :: rest => some (.literal ⟨'\r', false⟩, rest)
  | 'v' :: rest => some (.literal ⟨'\x0b', false⟩, rest)
  | 'A' :: rest => some (.look .textStart, rest)
  | 'z' :: rest => some (.look .textEnd, rest)
  | 'b' :: rest => (readBoundaryKind extended rest).map fun (look, rest) => (.look look, rest)
  | 'B' :: rest => some (.look (.word .notBoundary), rest)
  | '<' :: rest => some (.look (.word .opening), rest)
  | '>' :: rest => some (.look (.word .closing), rest)
  | c :: rest => if isEscapable c then some (.literal ⟨c, false⟩, rest) else none

/-! ## Brackets -/

/-- Named classes of ASCII characters. -/
def posixClasses : List (String × CharSet) := [
  ("alnum", .ofRanges [⟨0x30, 0x39⟩, ⟨0x41, 0x5A⟩, ⟨0x61, 0x7A⟩]),
  ("alpha", .ofRanges [⟨0x41, 0x5A⟩, ⟨0x61, 0x7A⟩]),
  ("ascii", .range 0 0x7F),
  ("blank", .ofChars ['\t', ' ']),
  ("cntrl", .ofRanges [⟨0, 0x1F⟩, ⟨0x7F, 0x7F⟩]),
  ("digit", .range 0x30 0x39),
  ("graph", .range 0x21 0x7E),
  ("lower", .range 0x61 0x7A),
  ("print", .range 0x20 0x7E),
  ("punct", .ofRanges [⟨0x21, 0x2F⟩, ⟨0x3A, 0x40⟩, ⟨0x5B, 0x60⟩, ⟨0x7B, 0x7E⟩]),
  ("space", .ofChars ['\t', '\n', '\x0b', '\x0c', '\r', ' ']),
  ("upper", .range 0x41 0x5A),
  ("word", .ofRanges [⟨0x30, 0x39⟩, ⟨0x41, 0x5A⟩, ⟨0x5F, 0x5F⟩, ⟨0x61, 0x7A⟩]),
  ("xdigit", .ofRanges [⟨0x30, 0x39⟩, ⟨0x41, 0x46⟩, ⟨0x61, 0x66⟩])]

/-- A class such as `:alpha:]`, whose opening bracket has been read. What looks otherwise is an
ordinary bracket. -/
def readPosix? : List Char → Option (CharClass × List Char)
  | ':' :: rest =>
      let (negated, rest) := match rest with
        | '^' :: rest => (true, rest)
        | rest => (false, rest)
      match rest.dropWhile (· ≠ ':') with
      | ':' :: ']' :: after =>
          (posixClasses.lookup (String.ofList (rest.takeWhile (· ≠ ':')))).map fun members =>
            (.posix members negated, after)
      | _ => none
  | _ => none

/-- One end of a range, or a member on its own. -/
def readMember (extended : Bool) : List Char → Option (Primitive × List Char)
  | [] => none
  | '\\' :: rest => readEscape extended rest
  | c :: rest => some (.literal ⟨c, false⟩, rest)

/-- The character after a hyphen. In extended mode blanks are passed over, and the mark that
starts a comment, but not the comment. -/
def peekAfterHyphen (extended : Bool) (cs : List Char) : Option Char :=
  if extended then
    match cs.dropWhile isBlank with
    | '#' :: rest => (rest.dropWhile isBlank).head?
    | cs => cs.head?
  else cs.head?

/-- A member or a range. A hyphen before a closing bracket or another hyphen makes no range. -/
def readRange (extended : Bool) (cs : List Char) : Option (CharClass × List Char) := do
  let (first, rest) ← readMember extended cs
  let single : Option (CharClass × List Char) :=
    match first with
    | .literal c => some (.literal c, rest)
    | .escape cls negated => some (.escape cls negated, rest)
    | .look _ => none
  match skip extended rest with
  | [] => none
  | '-' :: after =>
      match peekAfterHyphen extended after with
      | some ']' | some '-' => single
      | _ =>
          match first, ← readMember extended (skip extended after) with
          | .literal a, (.literal b, rest) =>
              if a.char.toNat ≤ b.char.toNat then return (.range a b, rest) else none
          | _, _ => none
  | _ => single

/-- Members so far, with the operand to their left if there is one. -/
structure OpenClass where
  pending : Option (SetOperation × CharClass)
  parts : List CharClass

namespace OpenClass

def push (c : OpenClass) (part : CharClass) : OpenClass := { c with parts := part :: c.parts }

def close (c : OpenClass) : CharClass :=
  let members := CharClass.ofParts c.parts.reverse
  match c.pending with
  | none => members
  | some (op, left) => .operation op left members

/-- Start the right operand. Operators group to the left and bind alike. -/
def operator (c : OpenClass) (op : SetOperation) : OpenClass := ⟨some (op, c.close), []⟩

end OpenClass

/-- Hyphens at the start of a bracket, which are members. -/
def leadingHyphens (extended : Bool) (cs : List Char) : List CharClass × List Char :=
  let (hyphens, rest) := scanWhile extended (· == '-') false cs
  (hyphens.map fun c => .literal ⟨c, false⟩, rest)

mutual

/-- A bracket whose opening mark has been read. -/
def readBracket (extended : Bool) : Nat → List Char → Option (Bool × CharClass × List Char)
  | 0, _ => none
  | fuel + 1, cs => do
      let (negated, cs) := match skip extended cs with
        | '^' :: rest => (true, skip extended rest)
        | cs => (false, cs)
      let (hyphens, cs) := leadingHyphens extended cs
      -- A closing mark that comes first is a member: no bracket can be empty.
      let (parts, cs) := match hyphens, cs with
        | [], ']' :: rest => ([CharClass.literal ⟨']', false⟩], rest)
        | _, _ => (hyphens, cs)
      let (sub, rest) ← readMembers extended fuel ⟨none, parts⟩ cs
      return (negated, sub, rest)

/-- The members of a bracket up to the closing mark. -/
def readMembers (extended : Bool) : Nat → OpenClass → List Char → Option (CharClass × List Char)
  | 0, _, _ => none
  | fuel + 1, c, cs =>
      match skip extended cs with
      | [] => none
      | ']' :: rest => some (c.close, rest)
      | '[' :: rest =>
          -- What is no named class after all is read again as a bracket.
          match readPosix? rest with
          | some (part, rest) => readMembers extended fuel (c.push part) rest
          | none =>
              match readBracket extended fuel rest with
              | some (negated, sub, rest) =>
                  readMembers extended fuel (c.push (.bracket negated sub)) rest
              | none => none
      | '&' :: '&' :: rest => readMembers extended fuel (c.operator .intersection) rest
      | '-' :: '-' :: rest => readMembers extended fuel (c.operator .difference) rest
      | '~' :: '~' :: rest => readMembers extended fuel (c.operator .symmetricDifference) rest
      | cs =>
          match readRange extended cs with
          | some (part, rest) => readMembers extended fuel (c.push part) rest
          | none => none

end

/-! ## Groups and repetitions -/

def flag? : Char → Option Flag
  | 'i' => some .ignoreCase
  | 'm' => some .multiLine
  | 's' => some .dotAll
  | 'U' => some .swapGreed
  | 'u' => some .unicode
  | 'R' => some .pairedLineEnds
  | 'x' => some .extended
  | _ => none

/-- Flags up to `:` or `)`, which is left to be read. Flags after a hyphen are turned off. -/
def readFlags (changes : FlagChanges) (enable dangling : Bool) :
    List Char → Option (FlagChanges × List Char)
  | [] => none
  | c :: rest =>
      if c = ':' ∨ c = ')' then if dangling then none else some (changes, c :: rest)
      else if c = '-' then if enable then readFlags changes false true rest else none
      else
        match flag? c with
        | none => none
        | some flag =>
            if (changes.lookup flag).isSome then none
            else readFlags (changes ++ [(flag, enable)]) enable false rest

def isGroupNameStart (c : Char) : Bool := c == '_' || isAlphabetic c

def isGroupNameChar (c : Char) : Bool :=
  c == '_' || c == '.' || c == '[' || c == ']' || isAlphanumeric c

/-- The name of a group up to `>`, and what follows. -/
def readGroupName (cs : List Char) : Option (List Char × List Char) :=
  match cs.takeWhile (· ≠ '>'), cs.dropWhile (· ≠ '>') with
  | c :: name, _ :: rest =>
      if isGroupNameStart c && name.all isGroupNameChar then some (c :: name, rest) else none
  | _, _ => none

/-- How a parenthesis opens. -/
inductive Opening where
  | capture (name : Option (List Char))
  | flagged (changes : FlagChanges)
  | setting (changes : FlagChanges)

/-- What follows an opening parenthesis. Look-around is refused. -/
def readOpening (extended : Bool) (cs : List Char) : Option (Opening × List Char) :=
  let named (cs : List Char) :=
    (readGroupName cs).map fun (name, rest) => (Opening.capture (some name), rest)
  match skip extended cs with
  | '?' :: '=' :: _ | '?' :: '!' :: _ | '?' :: '<' :: '=' :: _ | '?' :: '<' :: '!' :: _ => none
  | '?' :: 'P' :: '<' :: rest => named rest
  | '?' :: '<' :: rest => named rest
  | '?' :: rest =>
      match readFlags [] true false rest with
      | some (changes, ':' :: rest) => some (.flagged changes, rest)
      | some (changes, _ :: rest) => if changes.isEmpty then none else some (.setting changes, rest)
      | _ => none
  | cs => some (.capture none, cs)

/-- A number of repetitions below 2^32. Blanks may stand around it. -/
def readCount (extended : Bool) (cs : List Char) : Option (Nat × List Char) :=
  let (digits, rest) := scanWhile extended isAsciiDigit false (cs.dropWhile isBlank)
  let count := digits.foldl (fun n c => 10 * n + (c.toNat - 48)) 0
  if digits.isEmpty || 0x100000000 ≤ count then none else some (count, rest.dropWhile isBlank)

/-- The bounds of a repetition after an opening brace. -/
def readBounds (extended : Bool) (cs : List Char) : Option (Nat × Option Nat × List Char) := do
  let (min, rest) ← readCount extended (skip extended cs)
  match rest with
  | '\x7d' :: rest => return (min, some min, rest)
  | ',' :: rest =>
      match skip extended rest with
      | '\x7d' :: rest => return (min, none, rest)
      | rest =>
          match ← readCount extended rest with
          | (max, '\x7d' :: rest) => if min ≤ max then return (min, some max, rest) else none
          | _ => none
  | _ => none

/-- A question mark after a repetition makes it lazy. -/
def readLazy : List Char → Bool × List Char
  | '?' :: rest => (true, rest)
  | cs => (false, cs)

/-- What is left of a source, whether extended mode is on, and the names of the groups so far. -/
structure ReaderState where
  rest : List Char
  extended : Bool
  names : List (List Char) := []

/-- Apply changed flags to the reading of what follows. -/
def ReaderState.set (s : ReaderState) (changes : FlagChanges) : ReaderState :=
  { s with extended := (changes.lookup .extended).getD s.extended }

/-- Repeat the last part that was read. Flags cannot be repeated. -/
def repeatLast (min : Nat) (max : Option Nat) (isLazy : Bool) : List Tree → Option (List Tree)
  | [] | .empty :: _ | .flags _ :: _ => none
  | part :: parts => some (.repetition part min max isLazy :: parts)

/-- A part that is neither group, bracket nor repetition. -/
def readPrimitive (extended : Bool) : List Char → Option (Tree × List Char)
  | [] => none
  | '\\' :: rest =>
      (readEscape extended rest).map fun
        | (.literal c, rest) => (.literal c, rest)
        | (.look look, rest) => (.look look, rest)
        | (.escape cls negated, rest) => (.escape cls negated, rest)
  | '.' :: rest => some (.dot, rest)
  | '^' :: rest => some (.look .lineStart, rest)
  | '$' :: rest => some (.look .lineEnd, rest)
  | c :: rest => some (.literal ⟨c, false⟩, rest)

mutual

/-- Branches between bars, up to a closing parenthesis or the end. -/
def readBranches : Nat → ReaderState → Option (List Tree × ReaderState)
  | 0, _ => none
  | fuel + 1, s => do
      let (branch, s) ← readBranch fuel [] s
      match s.rest with
      | '|' :: rest =>
          let (branches, s) ← readBranches fuel { s with rest := rest }
          return (branch :: branches, s)
      | _ => return ([branch], s)

/-- One branch; `parts` holds what has been read of it, the last part first. -/
def readBranch : Nat → List Tree → ReaderState → Option (Tree × ReaderState)
  | 0, _, _ => none
  | fuel + 1, parts, s => do
      let s := { s with rest := skip s.extended s.rest }
      match s.rest with
      -- Whoever asked for the branch decides whether it may end here.
      | [] | ')' :: _ | '|' :: _ => return (.ofParts parts.reverse, s)
      | '(' :: rest =>
          match ← readOpening s.extended rest with
          | (.setting changes, rest) =>
              readBranch fuel (.flags changes :: parts) ({ s with rest := rest }.set changes)
          | (.flagged changes, rest) =>
              let (sub, after) ← readGroup fuel ({ s with rest := rest }.set changes)
              readBranch fuel (.group changes sub :: parts) { after with extended := s.extended }
          | (.capture none, rest) =>
              let (sub, after) ← readGroup fuel { s with rest := rest }
              readBranch fuel (.capture sub :: parts) { after with extended := s.extended }
          | (.capture (some name), rest) =>
              if s.names.contains name then none
              let (sub, after) ← readGroup fuel { s with rest := rest, names := name :: s.names }
              readBranch fuel (.capture sub :: parts) { after with extended := s.extended }
      | '[' :: rest =>
          let (negated, sub, rest) ← readBracket s.extended (2 * rest.length + 2) rest
          readBranch fuel (.bracket negated sub :: parts) { s with rest := rest }
      | '?' :: rest =>
          let (isLazy, rest) := readLazy rest
          readBranch fuel (← repeatLast 0 (some 1) isLazy parts) { s with rest := rest }
      | '*' :: rest =>
          let (isLazy, rest) := readLazy rest
          readBranch fuel (← repeatLast 0 none isLazy parts) { s with rest := rest }
      | '+' :: rest =>
          let (isLazy, rest) := readLazy rest
          readBranch fuel (← repeatLast 1 none isLazy parts) { s with rest := rest }
      | '\x7b' :: rest =>
          let (min, max, rest) ← readBounds s.extended rest
          let (isLazy, rest) := readLazy (skip s.extended rest)
          readBranch fuel (← repeatLast min max isLazy parts) { s with rest := rest }
      | rest =>
          let (part, rest) ← readPrimitive s.extended rest
          readBranch fuel (part :: parts) { s with rest := rest }

/-- The inside of a group and its closing parenthesis. -/
def readGroup : Nat → ReaderState → Option (Tree × ReaderState)
  | 0, _ => none
  | fuel + 1, s => do
      let (branches, s) ← readBranches fuel s
      match s.rest with
      | ')' :: rest => return (.ofBranches branches, { s with rest := rest })
      | _ => none

end

/-- How deep a source may nest. -/
def maxNesting : Nat := 250

/-- Read a whole source. -/
def Tree.parse? (extended : Bool) (source : List Char) : Option Tree := do
  let (branches, s) ← readBranches (3 * source.length + 3) { rest := source, extended }
  let tree := Tree.ofBranches branches
  if s.rest.isEmpty && tree.nesting ≤ maxNesting then return tree else none

end Semblance.Regex
