import Semblance.CharSet

/-!
# Trees of regular expressions

A tree records what a source says before its flags are applied. Names of groups do not decide
whether a text matches, so trees leave them out.
-/

namespace Semblance.Regex

/-- A switch that a source turns on or off. -/
inductive Flag where
  | ignoreCase
  | multiLine
  | dotAll
  | swapGreed
  | unicode
  | pairedLineEnds
  | extended
  deriving DecidableEq, Repr

/-- The settings that a source makes in one place. -/
abbrev FlagChanges := List (Flag × Bool)

/-- How a position can stand to the words of a text. A half edge asks for one side only. -/
inductive WordEdge where
  | boundary
  | notBoundary
  | opening
  | closing
  | openingHalf
  | closingHalf
  deriving DecidableEq, Repr

/-- A condition on the characters around a position. -/
inductive Look where
  | lineStart
  | lineEnd
  | textStart
  | textEnd
  | word (edge : WordEdge)
  deriving DecidableEq, Repr

/-- A character as a source writes it. Two hexadecimal digits stand for a byte where the source
has turned Unicode off. -/
structure Literal where
  char : Char
  isByte : Bool := false
  deriving DecidableEq, Repr

/-- A class that an escape names. -/
inductive EscapeClass where
  | digit
  | blank
  | word
  | property (name : List Char)
  | valued (property value : List Char)
  deriving DecidableEq, Repr

inductive SetOperation where
  | intersection
  | difference
  | symmetricDifference
  deriving DecidableEq, Repr

/-- What stands between brackets. -/
inductive CharClass where
  | empty
  | literal (literal : Literal)
  | range (first last : Literal)
  | escape (cls : EscapeClass) (negated : Bool)
  | posix (members : CharSet) (negated : Bool)
  | bracket (negated : Bool) (sub : CharClass)
  | union (parts : List CharClass)
  | operation (op : SetOperation) (left right : CharClass)

inductive Tree where
  | empty
  | flags (changes : FlagChanges)
  | literal (literal : Literal)
  | dot
  | look (look : Look)
  | escape (cls : EscapeClass) (negated : Bool)
  | bracket (negated : Bool) (sub : CharClass)
  | repetition (sub : Tree) (min : Nat) (max : Option Nat) (isLazy : Bool)
  | group (changes : FlagChanges) (sub : Tree)
  | capture (sub : Tree)
  | alternation (branches : List Tree)
  | concat (parts : List Tree)

namespace CharClass

/-- The union of parts; a single part stands for itself. -/
def ofParts : List CharClass → CharClass
  | [] => empty
  | [part] => part
  | parts => union parts

mutual

def nesting : CharClass → Nat
  | bracket _ sub => sub.nesting + 1
  | union parts => nestingAll parts + 1
  | operation _ left right => max left.nesting right.nesting + 1
  | _ => 0

def nestingAll : List CharClass → Nat
  | [] => 0
  | part :: rest => max part.nesting (nestingAll rest)

end

end CharClass

namespace Tree

/-- Parts one after the other; a single part stands for itself. -/
def ofParts : List Tree → Tree
  | [] => empty
  | [part] => part
  | parts => concat parts

/-- A choice of branches; a single branch stands for itself. -/
def ofBranches : List Tree → Tree
  | [] => empty
  | [branch] => branch
  | branches => alternation branches

mutual

/-- How deep repetitions, groups, brackets, choices and sequences nest. -/
def nesting : Tree → Nat
  | bracket _ sub => sub.nesting + 1
  | repetition sub _ _ _ => sub.nesting + 1
  | group _ sub => sub.nesting + 1
  | capture sub => sub.nesting + 1
  | alternation branches => nestingAll branches + 1
  | concat parts => nestingAll parts + 1
  | _ => 0

def nestingAll : List Tree → Nat
  | [] => 0
  | part :: rest => max part.nesting (nestingAll rest)

end

end Tree

end Semblance.Regex
