import Semblance.Regex.ByteSequence
import Semblance.Regex.Form
import Semblance.Regex.LiteralTrie
import Std.Data.HashMap

/-!
# How large a form is when compiled

A form is compiled into two automata over bytes, one that reads a text forwards and one that reads
it backwards. Every copy of a repeated part is written out. Each automaton may take 10 MiB: 32 bytes
for a state, 8 for each range of a state that has several, and 4 for each way on from a fork.
-/

namespace Semblance.Regex

/-- States, and the bytes that they hold besides their own size. -/
structure Footprint where
  states : Nat
  extra : Nat
  deriving DecidableEq, Repr

namespace Footprint

def bytes (f : Footprint) : Nat := 32 * f.states + f.extra

def maxBytes : Nat := 10 * 1024 * 1024

/-- Grow, unless that is too much. -/
def add? (f : Footprint) (states extra : Nat) : Option Footprint :=
  let grown : Footprint := ⟨f.states + states, f.extra + extra⟩
  if grown.bytes ≤ maxBytes then some grown else none

end Footprint

namespace LiteralTrie

/-- A run of branches since a literal last ended: a state, with ranges if there are several. -/
def ofRun (branches : Nat) : Footprint :=
  match branches with
  | 0 => ⟨0, 0⟩
  | 1 => ⟨1, 4⟩
  | n => ⟨1, 8 * n + 4⟩

/-- A node is a fork between its runs of branches and the end. `run` counts the branches before
this entry in the same run. Nodes without a way on are the end. -/
def nodeFootprint : LiteralTrie → Nat → Footprint
  | nil, run =>
      let last := ofRun run
      ⟨last.states + 1, last.extra⟩
  | branch _ child older, run =>
      let before := nodeFootprint older (run + 1)
      if child.hasBranch then
        let under := nodeFootprint child 0
        ⟨under.states + before.states, under.extra + before.extra⟩
      else before
  | stop older, run =>
      let here := ofRun run
      let before := nodeFootprint older 0
      ⟨here.states + before.states, here.extra + before.extra + 4⟩

/-- The nodes of a trie and the end that they share. -/
def footprint (t : LiteralTrie) : Footprint :=
  let nodes := t.nodeFootprint 0
  ⟨nodes.states + 1, nodes.extra⟩

end LiteralTrie

/-! ## Blueprints -/

/-- Byte sequences by their first ranges. -/
inductive ByteTree where
  | node (children : List (ByteRange × ByteTree))

namespace ByteTree

/-- Collect neighbours with the same first range. -/
def group : List ByteSequence → List (ByteRange × List ByteSequence)
  | [] => []
  | [] :: rest => group rest
  | (first :: tail) :: rest =>
      match group rest with
      | (range, tails) :: groups =>
          if range = first then (range, tail :: tails) :: groups
          else (first, [tail]) :: (range, tails) :: groups
      | [] => [(first, [tail])]

/-- The tree of sequences of at most `depth` bytes. -/
def ofSequences : Nat → List ByteSequence → ByteTree
  | 0, _ => node []
  | depth + 1, sequences =>
      node ((group sequences).map fun (range, tails) => (range, ofSequences depth tails))

end ByteTree

inductive Direction where
  | forwards
  | backwards
  deriving DecidableEq, Repr

/-- The parts of an automaton in the order in which they are built. -/
inductive Blueprint where
  /-- States that nothing before them changes. -/
  | fixed (footprint : Footprint)
  /-- The states of a set, where sequences with the same end share it. -/
  | sharedEnds (tree : ByteTree)
  /-- The states of a set, where sequences with the same beginning share it. -/
  | sharedStarts (sequences : List ByteSequence)
  /-- A part between two states. -/
  | between (sub : Blueprint)
  | chain (parts : List Blueprint)
  | fork (branches : List Blueprint)
  /-- `isConsuming` says that the part cannot be passed without taking a character. -/
  | repetition (sub : Blueprint) (min : Nat) (max : Option Nat) (isConsuming : Bool)

namespace Form

/-- The literals that all forms of a list are. -/
def literals? : List Form → Option (List (List Char))
  | [] => some []
  | literal text :: rest => (literals? rest).map (text :: ·)
  | _ => none

def utf8 (text : List Char) : List UInt8 := text.flatMap String.utf8EncodeChar

/-- The footprint of a choice between literals. -/
def literalsFootprint (direction : Direction) (literals : List (List Char)) : Footprint :=
  let bytes (text : List Char) : List UInt8 :=
    match direction with
    | .forwards => utf8 text
    | .backwards => (utf8 text).reverse
  (LiteralTrie.ofList (literals.map bytes)).footprint

def charsBlueprint (direction : Direction) (set : CharSet) : Blueprint :=
  if set.isAscii then .fixed ⟨2, 8 * set.ranges.length⟩
  else
    let sequences := ByteSequence.ofSet set
    match direction with
    | .forwards => .sharedEnds (ByteTree.ofSequences 4 sequences)
    | .backwards => .sharedStarts sequences

mutual

/-- What is built for a form. Groups are only told apart forwards. -/
def blueprint (direction : Direction) : Form → Blueprint
  | empty => .fixed ⟨1, 0⟩
  | literal text => .fixed ⟨(utf8 text).length, 0⟩
  | chars set => charsBlueprint direction set
  | look _ => .fixed ⟨1, 0⟩
  | repetition sub min max _ => .repetition (sub.blueprint direction) min max sub.isConsuming
  | capture sub =>
      match direction with
      | .forwards => .between (sub.blueprint direction)
      | .backwards => sub.blueprint direction
  | concat parts =>
      match direction with
      | .forwards => .chain (blueprints direction parts)
      | .backwards => .chain (blueprints direction parts).reverse
  | alternation branches =>
      match literals? branches with
      | some literals => .fixed (literalsFootprint direction literals)
      | none => .fork (blueprints direction branches)

def blueprints (direction : Direction) : List Form → List Blueprint
  | [] => []
  | form :: rest => form.blueprint direction :: blueprints direction rest

end

end Form

/-! ## Sets of characters -/

/-- One way on from a state: a range of bytes and the number of the state that it leads to. -/
structure ByteLink where
  range : ByteRange
  target : Nat
  deriving DecidableEq, Repr

/-- States that were built for a set, by a key of what they hold. A key has one place, which later
keys with the same place take over. Only what is still in its place is built no second time. -/
structure StateCache (κ : Type) where
  places : Std.HashMap UInt64 (κ × Nat) := {}

namespace StateCache

variable {κ : Type} [BEq κ]

def find? (cache : StateCache κ) (place : UInt64) (key : κ) : Option Nat :=
  match cache.places[place]? with
  | some (there, state) => if there == key then some state else none
  | none => none

def insert (cache : StateCache κ) (place : UInt64) (key : κ) (state : Nat) : StateCache κ :=
  ⟨cache.places.insert place (key, state)⟩

end StateCache

/-- Take numbers into a hash one by one. -/
def hashNumbers (numbers : List Nat) : UInt64 :=
  numbers.foldl (fun h n => (h ^^^ n.toUInt64) * 0x100000001B3) 0xCBF29CE484222325

/-- How far the states of a set are built. -/
structure SetBuild (κ : Type) where
  footprint : Footprint
  cache : StateCache κ := {}

namespace ByteTree

def linksPlace (links : List ByteLink) : UInt64 :=
  hashNumbers (links.flatMap fun l => [l.range.first, l.range.last, l.target]) % 10000

mutual

/-- Build the states of a tree from the last bytes on. A tree without children is the end, which
has been built before. -/
def build (final : Nat) : ByteTree → SetBuild (List ByteLink) →
    Option (Nat × SetBuild (List ByteLink))
  | node [], s => some (final, s)
  | node (child :: children), s =>
      match buildLinks final (child :: children) s with
      | none => none
      | some (links, s) =>
          let place := linksPlace links
          match s.cache.find? place links with
          | some state => some (state, s)
          | none =>
              let state := s.footprint.states
              match s.footprint.add? 1 (8 * links.length) with
              | none => none
              | some footprint => some (state, ⟨footprint, s.cache.insert place links state⟩)

def buildLinks (final : Nat) : List (ByteRange × ByteTree) → SetBuild (List ByteLink) →
    Option (List ByteLink × SetBuild (List ByteLink))
  | [], s => some ([], s)
  | (range, child) :: rest, s =>
      match child.build final s with
      | none => none
      | some (target, s) =>
          match buildLinks final rest s with
          | none => none
          | some (links, s) => some (⟨range, target⟩ :: links, s)

end

/-- The states of a tree, after the end that they lead to. -/
def grow? (tree : ByteTree) (f : Footprint) : Option Footprint := do
  let final := f.states
  let (_, s) ← tree.build final { footprint := ← f.add? 1 0 }
  return s.footprint

end ByteTree

namespace ByteSequence

/-- Build a sequence from its first byte on, each state leading to the one before. The first leads
to `target`. -/
def build : ByteSequence → Nat → SetBuild ByteLink → Option (SetBuild ByteLink)
  | [], _, s => some s
  | range :: rest, target, s =>
      let link : ByteLink := ⟨range, target⟩
      let place := hashNumbers [target, range.first, range.last] % 1000
      match s.cache.find? place link with
      | some state => build rest state s
      | none =>
          let state := s.footprint.states
          match s.footprint.add? 1 0 with
          | none => none
          | some footprint => build rest state ⟨footprint, s.cache.insert place link state⟩

/-- Build sequences one after the other; each is one more way on from the fork before them. -/
def buildAll (target : Nat) : List ByteSequence → SetBuild ByteLink → Option Footprint
  | [], s => some s.footprint
  | sequence :: rest, s =>
      match sequence.build target s with
      | none => none
      | some s =>
          match s.footprint.add? 0 4 with
          | none => none
          | some footprint => buildAll target rest { s with footprint }

/-- The states of sequences, after a fork and the end. -/
def grow? (sequences : List ByteSequence) (f : Footprint) : Option Footprint := do
  let final := f.states + 1
  buildAll final sequences { footprint := ← f.add? 2 0 }

end ByteSequence

/-! ## Automata -/

/-- An automaton so far, and whether its last state is a fork, so that going on takes 4 bytes. -/
structure Draft where
  footprint : Footprint
  endsInFork : Bool

namespace Draft

/-- Go on from the last state, which has to be led somewhere. -/
def add? (d : Draft) (states extra : Nat) (endsInFork : Bool) : Option Draft :=
  match d.footprint.add? states (extra + if d.endsInFork then 4 else 0) with
  | none => none
  | some footprint => some ⟨footprint, endsInFork⟩

end Draft

/-- How a part is added to what is there. -/
abbrev Growth := Footprint → Option Draft

namespace Growth

/-- Copies of a part, each led to the next, after a draft. -/
def copies (part : Growth) : Nat → Draft → Option Draft
  | 0, d => some d
  | n + 1, d =>
      match d.add? 0 0 false with
      | none => none
      | some joined =>
          match part joined.footprint with
          | none => none
          | some d => copies part n d

/-- A number of copies. No copy at all is one state. -/
def exactly (part : Growth) : Nat → Growth
  | 0, f => do return ⟨← f.add? 1 0, false⟩
  | n + 1, f => do copies part n (← part f)

/-- Copies that may be left out, after a draft: before each is a fork that also leads to the end. -/
def optionals (part : Growth) : Nat → Draft → Option Draft
  | 0, d => some d
  | n + 1, d =>
      match d.add? 1 8 false with
      | none => none
      | some forked =>
          match part forked.footprint with
          | none => none
          | some d => optionals part n d

/-- A part that may be left out. -/
def optional (part : Growth) : Growth := fun f => do
  (← part (← f.add? 1 4)).add? 1 4 false

/-- A part any number of times. If the part may take nothing, one copy has to be kept apart from
leaving it out. -/
def star (part : Growth) (isConsuming : Bool) : Growth := fun f => do
  if isConsuming then (← part (← f.add? 1 4)).add? 0 0 true
  else (← part f).add? 3 16 false

/-- A part at least once. -/
def plus (part : Growth) : Growth := fun f => do (← part f).add? 1 4 true

def repetition (part : Growth) (min : Nat) (max : Option Nat) (isConsuming : Bool) : Growth :=
  fun f =>
    match min, max with
    | 0, some 1 => optional part f
    | 0, none => star part isConsuming f
    | 1, none => plus part f
    | n + 2, none => do
        let d ← exactly part (n + 1) f
        let d ← d.add? 0 0 false
        plus part d.footprint
    | min, some max => do
        let d ← exactly part min f
        if min = max then return d
        else
          let d ← optionals part (max - min) { d with footprint := ← d.footprint.add? 1 0 }
          d.add? 0 0 false

end Growth

namespace Blueprint

mutual

/-- Build a part. -/
def build : Blueprint → Growth
  | fixed footprint, f => do return ⟨← f.add? footprint.states footprint.extra, false⟩
  | sharedEnds tree, f => do return ⟨← tree.grow? f, false⟩
  | sharedStarts sequences, f => do return ⟨← ByteSequence.grow? sequences f, false⟩
  | between sub, f => do
      let d ← sub.build (← f.add? 1 0)
      d.add? 1 0 false
  | chain parts, f => buildChain parts ⟨f, false⟩
  | fork branches, f => do return ⟨← buildFork branches 0 f, false⟩
  | repetition sub min max isConsuming, f =>
      Growth.repetition (fun f => sub.build f) min max isConsuming f

/-- Parts one after the other, after a draft. -/
def buildChain : List Blueprint → Draft → Option Draft
  | [], d => some d
  | part :: rest, d => do
      let joined ← d.add? 0 0 false
      buildChain rest (← part.build joined.footprint)

/-- Branches, of which `before` have been built. The fork and the end that they share are built
after the second branch. -/
def buildFork : List Blueprint → Nat → Footprint → Option Footprint
  | [], _, f => some f
  | branch :: rest, before, f => do
      let d ← branch.build f
      let d ← d.add? (if before = 1 then 2 else 0) 4 false
      buildFork rest (before + 1) d.footprint

end

end Blueprint

namespace Form

/-- The states that find where a match may start, if that can be anywhere. -/
def searchPrefix (direction : Direction) (form : Form) : Footprint :=
  let anchored := match direction with
    | .forwards => form.startsAtTextStart
    | .backwards => form.endsAtTextEnd
  if anchored then ⟨1, 0⟩ else ⟨3, 16⟩

/-- The footprint of the automaton in one direction, unless it is too large. Forwards a match as a
whole counts as a group. -/
def footprint? (direction : Direction) (form : Form) : Option Footprint := do
  let start := form.searchPrefix direction
  let f ← Footprint.add? ⟨0, 0⟩ start.states start.extra
  let whole := match direction with
    | .forwards => Blueprint.between (form.blueprint direction)
    | .backwards => form.blueprint direction
  let d ← (← whole.build f).add? 1 0 false
  return d.footprint

/-- Both automata are small enough. -/
def isCompilable (form : Form) : Bool :=
  (form.footprint? .forwards).isSome && (form.footprint? .backwards).isSome

end Form

end Semblance.Regex
