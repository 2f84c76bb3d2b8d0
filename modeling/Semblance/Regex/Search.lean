import Semblance.Regex.Classes
import Semblance.Regex.Form

/-!
# Searching a text

A search carries the set of all positions that can be reached, as the bits of a number: position
`i` of the text is bit `i`. Each part maps the positions where it may start to those where it may
end, so no path is tried twice. What a part needs of the text is worked out before the search.
-/

namespace Semblance.Regex

/-! ## Conditions -/

/-- A condition on the characters before and after a position. -/
abbrev Condition := Option Char → Option Char → Bool

def isWordCharOrNone (unicode : Bool) : Option Char → Bool
  | none => false
  | some c => if unicode then isWordChar c else asciiWordChars.contains c

/-- A line starts after a line feed. With paired line ends it also starts after a carriage return
that no line feed follows. -/
def startsLine (paired : Bool) : Condition
  | none, _ => true
  | some before, after =>
      before == '\n' || (paired && before == '\r' && after != some '\n')

def endsLine (paired : Bool) : Condition
  | _, none => true
  | before, some after =>
      if paired then after == '\r' || (after == '\n' && before != some '\r') else after == '\n'

def WordEdge.condition (edge : WordEdge) (unicode : Bool) : Condition :=
  let isWord := isWordCharOrNone unicode
  match edge with
  | boundary => fun before after => isWord before != isWord after
  | notBoundary => fun before after => isWord before == isWord after
  | opening => fun before after => !isWord before && isWord after
  | closing => fun before after => isWord before && !isWord after
  | openingHalf => fun before _ => !isWord before
  | closingHalf => fun _ after => !isWord after

def Assertion.condition : Assertion → Condition
  | textStart => fun before _ => before.isNone
  | textEnd => fun _ after => after.isNone
  | lineStart paired => startsLine paired
  | lineEnd paired => endsLine paired
  | word edge unicode => edge.condition unicode

/-! ## Positions -/

/-- A set of positions in a text. -/
abbrev Positions := Nat

namespace Positions

/-- The positions at which a list holds `true`. -/
def ofBools : List Bool → Positions
  | [] => 0
  | b :: rest => 2 * ofBools rest + b.toNat

/-- The positions below a bound. -/
def below (bound : Nat) : Positions := 1 <<< bound - 1

/-- Apply a step up to `steps` times, keeping every position on the way. -/
def closure (step : Positions → Positions) : Nat → Positions → Positions
  | 0, here => here
  | steps + 1, here =>
      let next := here ||| step here
      if next = here then here else closure step steps next

end Positions

/-! ## Surveys -/

/-- What is to be found in a text, with the positions where each character is and each condition is
met. -/
inductive Survey where
  | empty
  | consume (held : Positions)
  | look (met : Positions)
  | concat (first second : Survey)
  | alternate (first second : Survey)
  | repetition (sub : Survey) (min : Nat) (max : Option Nat)

namespace Form

/-- Where the text has a character that satisfies a test. -/
def consume (text : List Char) (test : Char → Bool) : Survey := .consume (.ofBools (text.map test))

mutual

/-- Work out for a form where its characters and conditions are in a text. -/
def survey (text : List Char) : Form → Survey
  | empty => .empty
  | literal cs => cs.foldr (fun c rest => .concat (consume text (· == c)) rest) .empty
  | chars set => consume text set.contains
  | look assertion =>
      let before := none :: text.map some
      let after := text.map some ++ [none]
      .look (.ofBools (List.zipWith assertion.condition before after))
  | repetition sub min max _ => .repetition (sub.survey text) min max
  | capture sub => sub.survey text
  | concat parts => surveyParts text parts
  | alternation branches => surveyBranches text branches

def surveyParts (text : List Char) : List Form → Survey
  | [] => .empty
  | part :: rest => .concat (part.survey text) (surveyParts text rest)

def surveyBranches (text : List Char) : List Form → Survey
  | [] => .consume 0
  | branch :: rest => .alternate (branch.survey text) (surveyBranches text rest)

end

end Form

namespace Survey

/-- The positions where a part can end if it starts at one of the given positions. -/
def run (length : Nat) : Survey → Positions → Positions
  | empty, here => here
  | consume held, here => (here &&& held) <<< 1
  | look met, here => here &&& met
  | concat first second, here => second.run length (first.run length here)
  | alternate first second, here => first.run length here ||| second.run length here
  | repetition sub min max, here =>
      let required := Nat.repeat (sub.run length) min here
      -- Each round but the last adds a position, and there are `length + 1` of them.
      let optional := match max with
        | some max => max - min
        | none => length + 1
      Positions.closure (sub.run length) optional required

end Survey

/-- The positions where matches that start at one of the given positions can end. -/
def Form.ends (form : Form) (text : List Char) (starts : Positions) : Positions :=
  (form.survey text).run text.length starts

end Semblance.Regex
