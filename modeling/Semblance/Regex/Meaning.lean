import Semblance.Regex.Classes
import Semblance.Regex.Form
import Semblance.Unicode.Casing
import Semblance.Unicode.Names

/-!
# What a source means

The flags of a source are worked into its sets and conditions, which gives its form. With Unicode
turned off a source may only name sets of ASCII characters, so that what matches is always whole
characters.
-/

namespace Semblance.Regex

/-- The flags that decide what a part of a source means. -/
structure Flags where
  ignoreCase : Bool := false
  multiLine : Bool := false
  dotAll : Bool := false
  swapGreed : Bool := false
  unicode : Bool := true
  pairedLineEnds : Bool := false
  deriving DecidableEq, Repr

namespace Flags

def set (f : Flags) : Flag × Bool → Flags
  | (.ignoreCase, on) => { f with ignoreCase := on }
  | (.multiLine, on) => { f with multiLine := on }
  | (.dotAll, on) => { f with dotAll := on }
  | (.swapGreed, on) => { f with swapGreed := on }
  | (.unicode, on) => { f with unicode := on }
  | (.pairedLineEnds, on) => { f with pairedLineEnds := on }
  | (.extended, _) => f

def apply (f : Flags) (changes : FlagChanges) : Flags := changes.foldl set f

def ascii : CharSet := .range 0 0x7F

/-- Add the other cases of a set's members, if case is ignored. -/
def fold (f : Flags) (s : CharSet) : CharSet :=
  if !f.ignoreCase then s
  else if f.unicode then Unicode.foldClosure s
  else (Unicode.foldClosure s).inter ascii

/-- Negate a set. Without Unicode the complement would hold bytes that are no characters. -/
def negate (f : Flags) (negated : Bool) (s : CharSet) : Option CharSet :=
  if !negated then some s else if f.unicode then some s.complement else none

end Flags

/-! ## Sets -/

def EscapeClass.chars? (f : Flags) (negated : Bool) : EscapeClass → Option CharSet
  | digit => f.negate negated (if f.unicode then decimalDigits else asciiDigits)
  | blank => f.negate negated (if f.unicode then Text.blanks else asciiBlanks)
  | word => f.negate negated (if f.unicode then wordChars else asciiWordChars)
  | property name => do
      if !f.unicode then none
      f.negate negated (f.fold (← Unicode.named? name))
  | valued key value => do
      if !f.unicode then none
      f.negate negated (f.fold (← Unicode.valued? key value))

def SetOperation.apply : SetOperation → CharSet → CharSet → CharSet
  | intersection => CharSet.inter
  | difference => CharSet.diff
  | symmetricDifference => CharSet.symmDiff

/-- Without Unicode a literal in brackets has to be ASCII. -/
def Literal.code? (f : Flags) (l : Literal) : Option Nat :=
  if f.unicode || l.char.toNat < 128 then some l.char.toNat else none

namespace CharClass

mutual

/-- The members of a class, before the bracket around it is negated. -/
def chars? (f : Flags) : CharClass → Option CharSet
  | empty => some .empty
  | literal l => do
      let code ← l.code? f
      return .range code code
  | range first last => do return .range (← first.code? f) (← last.code? f)
  | escape cls negated => cls.chars? f negated
  | posix members negated => f.negate negated (f.fold members)
  | bracket negated sub => do f.negate negated (f.fold (← sub.chars? f))
  | union parts => do return .unions (← charsOfAll? f parts)
  | operation op left right => do
      return op.apply (f.fold (← left.chars? f)) (f.fold (← right.chars? f))

def charsOfAll? (f : Flags) : List CharClass → Option (List CharSet)
  | [] => some []
  | part :: rest => do return (← part.chars? f) :: (← charsOfAll? f rest)

end

end CharClass

def Literal.chars? (f : Flags) (l : Literal) : Option CharSet :=
  let single : CharSet := .range l.char.toNat l.char.toNat
  if f.unicode || l.char.toNat < 128 then some (f.fold single)
  else if l.isByte then none
  else some single

/-- What the dot stands for. -/
def anyChar? (f : Flags) : Option CharSet :=
  if !f.unicode then none
  else if f.dotAll then some .all
  else some (CharSet.ofChars (if f.pairedLineEnds then ['\r', '\n'] else ['\n'])).complement

/-! ## Conditions -/

def Look.assertion (f : Flags) : Look → Assertion
  | lineStart => if f.multiLine then .lineStart f.pairedLineEnds else .textStart
  | lineEnd => if f.multiLine then .lineEnd f.pairedLineEnds else .textEnd
  | textStart => .textStart
  | textEnd => .textEnd
  | word edge => .word edge f.unicode

/-! ## Forms -/

namespace Tree

mutual

/-- The form of a tree, and the flags for what follows it. -/
def form? : Tree → Flags → Option (Form × Flags)
  | empty, f => some (.empty, f)
  | flags changes, f => some (.empty, f.apply changes)
  | literal l, f => do return (.ofChars (← l.chars? f), f)
  | dot, f => do return (.ofChars (← anyChar? f), f)
  | look l, f => some (.look (l.assertion f), f)
  | escape cls negated, f => do return (.ofChars (← cls.chars? f negated), f)
  | bracket negated sub, f => do
      return (.ofChars (← f.negate negated (f.fold (← sub.chars? f))), f)
  | repetition sub min max isLazy, f => do
      let (form, f) ← sub.form? f
      return (form.times min max (isLazy != f.swapGreed), f)
  | group changes sub, f => do
      -- Flags that the group has set end with it.
      let (form, _) ← sub.form? (f.apply changes)
      return (form, f)
  | capture sub, f => do
      let (form, _) ← sub.form? f
      return (.capture form, f)
  | alternation branches, f => do
      let (forms, f) ← forms? branches f
      return (.ofBranches forms, f)
  | concat parts, f => do
      let (forms, f) ← forms? parts f
      return (.ofParts forms, f)

def forms? : List Tree → Flags → Option (List Form × Flags)
  | [], f => some ([], f)
  | tree :: rest, f => do
      let (form, f) ← tree.form? f
      let (forms, f) ← forms? rest f
      return (form :: forms, f)

end

end Tree

end Semblance.Regex
