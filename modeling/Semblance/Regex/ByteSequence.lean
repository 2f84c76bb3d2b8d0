import Semblance.CharSet

/-!
# Byte sequences of a set

In UTF-8 the characters of a set are told by ranges of bytes, one range for each byte. A range of
characters is cut so that each piece has all combinations of its byte ranges.
-/

namespace Semblance.Regex

structure ByteRange where
  first : Nat
  last : Nat
  deriving DecidableEq, Repr

/-- Characters with as many bytes as there are ranges, each byte from its range. -/
abbrev ByteSequence := List ByteRange

namespace ByteSequence

/-- How many numbers have `digits` digits to the base 64. -/
def span (digits : Nat) : Nat := 1 <<< (6 * digits)

/-- Cut the numbers from `first` to `last`, which have `rest` digits to the base 64 after the first
digit, into pieces of all combinations of digits. -/
def digitRanges : Nat → Nat → Nat → List (List ByteRange)
  | 0, first, last => [[⟨first, last⟩]]
  | rest + 1, first, last =>
      let whole := span (rest + 1)
      let (low, high) := (first / whole, last / whole)
      let under (digit first last : Nat) :=
        (digitRanges rest first last).map (⟨digit, digit⟩ :: ·)
      if low = high then under low (first % whole) (last % whole)
      else
        let startsWhole := first % whole = 0
        let endsWhole := last % whole = whole - 1
        let front := if startsWhole then [] else under low (first % whole) (whole - 1)
        let back := if endsWhole then [] else under high 0 (last % whole)
        let inner : ByteRange :=
          ⟨if startsWhole then low else low + 1, if endsWhole then high else high - 1⟩
        let middle :=
          if inner.first ≤ inner.last then [inner :: List.replicate (rest + 1) ⟨0, 63⟩] else []
        front ++ middle ++ back

/-- The bytes of digits: the first is marked by how many follow, and the others continue it. -/
def ofDigits (mark : Nat) : List ByteRange → ByteSequence
  | [] => []
  | lead :: rest =>
      ⟨mark + lead.first, mark + lead.last⟩ :: rest.map fun r => ⟨0x80 + r.first, 0x80 + r.last⟩

/-- The largest code points of one to four bytes, and the marks of their first bytes. -/
def lengths : List (Nat × Nat) := [(0x7F, 0), (0x7FF, 0xC0), (0xFFFF, 0xE0), (0x10FFFF, 0xF0)]

/-- Cut a range of characters, none of which has fewer than `rest + 1` bytes. -/
def ofRange (first last : Nat) : Nat → List (Nat × Nat) → List ByteSequence
  | _, [] => []
  | rest, (largest, mark) :: longer =>
      if largest < first then ofRange first last (rest + 1) longer
      else
        let here := (digitRanges rest first (min last largest)).map (ofDigits mark)
        if last ≤ largest then here else here ++ ofRange (largest + 1) last (rest + 1) longer

/-- The byte sequences of a set, in the order of its characters. -/
def ofSet (s : CharSet) : List ByteSequence :=
  s.ranges.flatMap fun r => ofRange r.first r.last 0 lengths

end ByteSequence

end Semblance.Regex
