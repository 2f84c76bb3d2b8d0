import Semblance.Decimal.Shortest

/-!
# How numbers are written

A notation decides what the shortest decimal of a number looks like: which exponents are written
out in positions, whether a whole number keeps a point, and how an exponent is marked.
-/

namespace Semblance

/-- The decisions of one number format. -/
structure Notation where
  tie : Decimal.Tie
  /-- The exponents of the first digit from which and up to which positions are used; with `none`
  there is no scientific form. -/
  positional : Option (Int × Int)
  /-- A whole number in positions ends in `.0`. -/
  pointZero : Bool
  /-- A positive exponent carries a plus sign. -/
  plusSign : Bool
  nan : String
  infinity : String

namespace Notation

/-- Numbers in JSON text: positions from `0.00001` up to sixteen digits before the point. -/
def json : Notation :=
  { tie := .toEven, positional := some (-5, 15), pointZero := true, plusSign := true,
    nan := "null", infinity := "null" }

/-- Numbers in texts, keys and messages: positions always. -/
def plain : Notation :=
  { tie := .up, positional := none, pointZero := false, plusSign := false,
    nan := "NaN", infinity := "inf" }

/-- Numbers converted to text by the language itself: as `plain`, with the infinities spelled
out. -/
def spelled : Notation := { plain with infinity := "Infinity" }

/-- Numbers in structural dumps. -/
def dump : Notation :=
  { tie := .up, positional := some (-4, 15), pointZero := true, plusSign := false,
    nan := "NaN", infinity := "inf" }

/-- Digits with the point `exponent` places to the right of their end. -/
def inPositions (pointZero : Bool) (digits : List Char) (exponent : Int) : List Char :=
  let zeros := List.replicate exponent.toNat '0'
  let places := (-exponent).toNat
  if places = 0 then
    digits ++ zeros ++ (if pointZero then ['.', '0'] else [])
  else if places < digits.length then
    digits.take (digits.length - places) ++ '.' :: digits.drop (digits.length - places)
  else
    '0' :: '.' :: List.replicate (places - digits.length) '0' ++ digits

/-- One digit before the point and an exponent. -/
def scientific (plusSign : Bool) (digits : List Char) (leading : Int) : List Char :=
  let mantissa := match digits with
    | first :: second :: rest => first :: '.' :: second :: rest
    | _ => digits
  let sign := if leading < 0 then ['-'] else if plusSign then ['+'] else []
  mantissa ++ 'e' :: sign ++ Nat.toDigits 10 leading.natAbs

/-- Write a positive decimal. -/
def writeDecimal (n : Notation) (d : Decimal) : List Char :=
  let leading := d.leadingExponent
  match n.positional with
  | some (low, high) =>
      if low ≤ leading ∧ leading ≤ high then inPositions n.pointZero d.digits d.exponent
      else scientific n.plusSign d.digits leading
  | none => inPositions n.pointZero d.digits d.exponent

/-- Put the minus sign of a negative number before its digits. -/
def signed : Float.Model.UnpackedFloat.Sign → List Char → String
  | .negative, body => String.ofList ('-' :: body)
  | .positive, body => String.ofList body

/-- Write a number. Of zero the sign is kept. -/
def write (n : Notation) (x : Float) : String :=
  match x.toModel.unpack with
  | .notANumber => n.nan
  | .infinity s => signed s n.infinity.toList
  | .zero s => signed s (if n.pointZero then ['0', '.', '0'] else ['0'])
  | .finite s mantissa exponent _ =>
      signed s (n.writeDecimal (Decimal.shortest n.tie mantissa exponent))

end Notation

end Semblance
