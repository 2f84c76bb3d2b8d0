import Semblance.Text.Classes

/-!
# Reading numbers from text

A number is an optional sign, ASCII digits with at most one point among or around them, and an
optional exponent; or one of the words for infinity and for no number, in any case. The value is
the nearest binary64 number.
-/

namespace Semblance

namespace Decimal

/-- The value of a run of digits. -/
def digitsValue (cs : List Char) : Nat :=
  cs.foldl (fun n c => 10 * n + (c.toNat - '0'.toNat)) 0

/-- The number `coefficient * 10 ^ exponent`, rounded to nearest. -/
def nearestFloat (coefficient : Nat) (exponent : Int) : Float :=
  Float.ofScientific coefficient (exponent < 0) exponent.natAbs

/-- The leading digits of a text and what follows them. -/
def spanDigits (cs : List Char) : List Char × List Char :=
  (cs.takeWhile Text.isAsciiDigit, cs.dropWhile Text.isAsciiDigit)

/-- An optional sign: whether it is a minus, and what follows. -/
def readSign : List Char → Bool × List Char
  | '-' :: rest => (true, rest)
  | '+' :: rest => (false, rest)
  | cs => (false, cs)

/-- The exponent that ends a number: nothing, or `e` with a sign and digits. -/
def readExponent : List Char → Option Int
  | [] => some 0
  | e :: rest =>
      if e = 'e' ∨ e = 'E' then
        let (negative, rest) := readSign rest
        let (digits, rest) := spanDigits rest
        if digits.isEmpty ∨ !rest.isEmpty then none
        else some (if negative then -(digitsValue digits : Int) else digitsValue digits)
      else none

/-- Digits, point and exponent. -/
def readUnsigned (cs : List Char) : Option Float :=
  let (whole, rest) := spanDigits cs
  let (fraction, rest) := match rest with
    | '.' :: rest => spanDigits rest
    | rest => ([], rest)
  if whole.isEmpty ∧ fraction.isEmpty then none
  else
    (readExponent rest).map fun exponent =>
      nearestFloat (digitsValue (whole ++ fraction)) (exponent - fraction.length)

/-- The words that stand for numbers without digits. -/
def readWord (cs : List Char) : Option Float :=
  let word := cs.map Char.toLower
  if word = "inf".toList ∨ word = "infinity".toList then some (1.0 / 0.0)
  else if word = "nan".toList then some (0.0 / 0.0)
  else none

/-- Read a whole text as a number. -/
def readFloat (cs : List Char) : Option Float :=
  let (negative, body) := readSign cs
  ((readUnsigned body).orElse fun _ => readWord body).map fun x => if negative then -x else x

end Decimal

end Semblance
