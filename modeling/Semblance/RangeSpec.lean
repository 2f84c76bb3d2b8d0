import Semblance.Closeness
import Semblance.Decimal.Notation
import Semblance.Decimal.Reader
import Semblance.Regex.Classes
import Semblance.Value.Dump

/-!
# Range specs

A text such as `linear:0;10;20` names a comparator and the range that it compares numbers against.
-/

namespace Semblance

inductive RangeKind where
  | linear
  | gaussian
  deriving DecidableEq, Repr

namespace RangeKind

def name : RangeKind → String
  | linear => "linear"
  | gaussian => "gaussian"

def ofName? : String → Option RangeKind
  | "linear" => some linear
  | "gaussian" => some gaussian
  | _ => none

/-- The kind of that name; every other name stands for the linear one. -/
def parse (name : String) : RangeKind := (ofName? name).getD linear

def dump : RangeKind → String
  | linear => "Linear"
  | gaussian => "Gaussian"

end RangeKind

structure RangeSpec where
  kind : RangeKind
  min : Float
  reference : Float
  max : Float

namespace RangeSpec

/-- Digits of any script, at least one, and what follows them. -/
def readDigits? (cs : List Char) : Option (List Char × List Char) :=
  match cs.takeWhile Regex.isDecimalDigit with
  | [] => none
  | digits => some (digits, cs.dropWhile Regex.isDecimalDigit)

/-- An optional minus sign and digits. -/
def readWhole? : List Char → Option (List Char × List Char)
  | '-' :: rest => (readDigits? rest).map fun (digits, rest) => ('-' :: digits, rest)
  | cs => readDigits? cs

/-- The text of a number with an optional fraction, and what follows it. -/
def readNumber? (cs : List Char) : Option (List Char × List Char) := do
  let (whole, rest) ← readWhole? cs
  match rest with
  | '.' :: fraction =>
      let (digits, rest) ← readDigits? fraction
      return (whole ++ '.' :: digits, rest)
  | _ => return (whole, rest)

/-- The texts of the name and of the three numbers. -/
def split? (cs : List Char) : Option (List Char × List Char × List Char × List Char) := do
  let name := cs.takeWhile Regex.isWordChar
  if name.isEmpty then none
  let ':' :: rest := cs.dropWhile Regex.isWordChar | none
  let (min, rest) ← readNumber? rest
  let ';' :: rest := rest | none
  let (reference, rest) ← readNumber? rest
  let ';' :: rest := rest | none
  let (max, rest) ← readNumber? rest
  if rest.isEmpty then return (name, min, reference, max) else none

/-- Read a whole text as a range spec. Only ASCII digits have a value. -/
def parse? (text : String) : Option RangeSpec := do
  let (name, min, reference, max) ← split? text.toList
  let min ← Decimal.readFloat min
  let reference ← Decimal.readFloat reference
  let max ← Decimal.readFloat max
  return { kind := .parse (String.ofList name), min, reference, max }

/-- Compare two numbers. -/
def score (s : RangeSpec) (l r : Float) : Float :=
  match s.kind with
  | .linear => Closeness.linear l r s.min s.reference s.max
  | .gaussian => Closeness.gaussian l r s.min s.reference s.max

def toText (s : RangeSpec) : String :=
  let number := Notation.plain.write
  s!"{s.kind.name}:{number s.min};{number s.reference};{number s.max}"

def dump (s : RangeSpec) : String :=
  let number := Notation.dump.write
  Dump.record "RangeSpec" [
    ("kind", s.kind.dump),
    ("min", number s.min),
    ("reference", number s.reference),
    ("max", number s.max)]

end RangeSpec

end Semblance
