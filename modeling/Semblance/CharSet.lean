/-!
# Sets of characters

A set is a list of inclusive code-point ranges, sorted and with gaps between them.
Membership is the view: every operation is described by the characters it contains.
-/

namespace Semblance

/-- An inclusive range of code points. -/
structure CharRange where
  first : Nat
  last : Nat
  deriving DecidableEq, Repr

namespace CharRange

def contains (r : CharRange) (n : Nat) : Bool :=
  r.first ≤ n && n ≤ r.last

/-- Lengthen `r` by the ranges after it that overlap or touch it, then go on with the next. -/
def absorb (r : CharRange) : List CharRange → List CharRange
  | [] => [r]
  | s :: rest =>
      if s.first ≤ r.last + 1 then absorb ⟨r.first, max r.last s.last⟩ rest
      else r :: absorb s rest

/-- Merge a list sorted by first code point, so that gaps remain between the ranges. -/
def merge : List CharRange → List CharRange
  | [] => []
  | r :: rest => absorb r rest

/-- The ranges from `start` to the largest code point that a sorted list leaves out. -/
def gaps : Nat → List CharRange → List CharRange
  | start, [] => if start ≤ 0x10FFFF then [⟨start, 0x10FFFF⟩] else []
  | start, r :: rest =>
      let following := gaps (r.last + 1) rest
      if start < r.first then ⟨start, r.first - 1⟩ :: following else following

end CharRange

/-- A set of characters. -/
structure CharSet where
  ranges : List CharRange
  deriving DecidableEq, Repr

namespace CharSet

def empty : CharSet := ⟨[]⟩

/-- Every code point. -/
def all : CharSet := ⟨[⟨0, 0x10FFFF⟩]⟩

/-- Collect ranges in any order; a range whose ends are swapped is dropped. -/
def ofRanges (rs : List CharRange) : CharSet :=
  ⟨CharRange.merge ((rs.filter fun r => r.first ≤ r.last).mergeSort fun a b => a.first ≤ b.first)⟩

def range (first last : Nat) : CharSet := ofRanges [⟨first, last⟩]

def ofChars (cs : List Char) : CharSet := ofRanges (cs.map fun c => ⟨c.toNat, c.toNat⟩)

def containsCode (s : CharSet) (n : Nat) : Bool := s.ranges.any (·.contains n)

def contains (s : CharSet) (c : Char) : Bool := s.containsCode c.toNat

def union (s t : CharSet) : CharSet := ofRanges (s.ranges ++ t.ranges)

def unions (sets : List CharSet) : CharSet := ofRanges (sets.flatMap (·.ranges))

def complement (s : CharSet) : CharSet := ⟨CharRange.gaps 0 s.ranges⟩

def inter (s t : CharSet) : CharSet := (s.complement.union t.complement).complement

def diff (s t : CharSet) : CharSet := s.inter t.complement

/-- The characters in exactly one of the two sets. -/
def symmDiff (s t : CharSet) : CharSet := (s.diff t).union (t.diff s)

def isEmpty (s : CharSet) : Bool := s.ranges.isEmpty

/-- Every member is below 128. -/
def isAscii (s : CharSet) : Bool := s.ranges.all (·.last < 128)

private def hexDigit (c : Char) : Nat :=
  if c.isDigit then c.toNat - '0'.toNat else c.toNat - 'A'.toNat + 10

/-- The value of upper-case hexadecimal digits. -/
def hexNumber (cs : List Char) : Nat := cs.foldl (fun n c => 16 * n + hexDigit c) 0

/-- Read one entry of a range table: `41` or `41-5A`, in upper-case hexadecimal. -/
private def readRange (entry : List Char) : CharRange :=
  let first := entry.takeWhile (· ≠ '-')
  match entry.dropWhile (· ≠ '-') with
  | [] => ⟨hexNumber first, hexNumber first⟩
  | _ :: last => ⟨hexNumber first, hexNumber last⟩

/-- The entries of a table, which blanks and line ends separate. -/
def tableEntries (cs : List Char) : List (List Char) :=
  let (current, done) := cs.foldr (fun c (current, done) =>
    if c = ' ' ∨ c = '\n' then
      ([], if current.isEmpty then done else current :: done)
    else (c :: current, done)) ([], [])
  if current.isEmpty then done else current :: done

/-- Read a table of ranges that is sorted already and separated by blanks. -/
def ofTable (table : String) : CharSet := ⟨(tableEntries table.toList).map readRange⟩

theorem ofTable_ofList (cs : List Char) :
    ofTable (String.ofList cs) = ⟨(tableEntries cs).map readRange⟩ := by
  rw [ofTable, String.toList_ofList]

end CharSet

end Semblance
