import Semblance.Decimal.Reader
import Semblance.Value.Number

/-!
# Numbers in JSON text

Integers of 64 bits stay integers. Any other number is a binary64 number, computed from the first
digits that fit 64 bits and a power of ten; this is close to the written number and not always the
nearest. A number beyond the largest is refused.
-/

namespace Semblance.Json

/-- Why a text is not JSON: it ends too early, or it breaks the grammar. -/
inductive Fault where
  | cutOff
  | malformed
  deriving DecidableEq, Repr

namespace Numeral

/-- Digits read so far, and the power of ten that they are a multiple of. -/
structure Significand where
  value : Nat := 0
  exponent : Int := 0
  /-- A digit did not fit, and all digits after it only count. -/
  full : Bool := false

namespace Significand

/-- Take a digit if 64 bits hold it. -/
def push? (s : Significand) (digit : Nat) : Option Nat :=
  let next := 10 * s.value + digit
  if s.full ∨ 0x10000000000000000 ≤ next then none else some next

/-- A digit before the point. -/
def pushWhole (s : Significand) (digit : Nat) : Significand :=
  match s.push? digit with
  | some next => { s with value := next }
  | none => { s with exponent := s.exponent + 1, full := true }

/-- A digit after the point. -/
def pushFraction (s : Significand) (digit : Nat) : Significand :=
  match s.push? digit with
  | some next => { s with value := next, exponent := s.exponent - 1 }
  | none => { s with full := true }

end Significand

def digitValue (c : Char) : Nat := c.toNat - '0'.toNat

def powerOfTen (n : Nat) : Float := Float.ofScientific 1 false n

/-- The number `x * 10 ^ exponent`, scaled in steps that powers of ten can express. -/
def scale (x : Float) (exponent : Int) : Option Float :=
  if exponent.natAbs ≤ 308 then
    if exponent < 0 then some (x / powerOfTen exponent.natAbs)
    else
      let scaled := x * powerOfTen exponent.natAbs
      if scaled.isInf then none else some scaled
  else if x == 0.0 then some x
  else if 0 ≤ exponent then none
  else scale (x / powerOfTen 308) (exponent + 308)
termination_by exponent.natAbs
decreasing_by omega

def signed (negative : Bool) (x : Float) : Float := if negative then -x else x

/-- A number with a fraction, an exponent, or too many digits. -/
def inexact (negative : Bool) (s : Significand) (exponent : Int) : Except Fault Number :=
  match scale (Float.ofNat s.value) exponent with
  | none => .error .malformed
  | some x =>
      match Number.ofFloat? (signed negative x) with
      | none => .error .malformed
      | some n => .ok n

/-- A number of digits alone. Minus zero is not an integer. -/
def whole (negative : Bool) (s : Significand) : Except Fault Number :=
  let value : Int := if negative then -(s.value : Int) else s.value
  match if negative ∧ s.value = 0 ∨ s.full then none else Number.ofInt? value with
  | some n => .ok n
  | none => inexact negative s s.exponent

/-- Digits as the exponent of a number. Beyond 31 bits only its sign matters. -/
def applyExponent (negative : Bool) (s : Significand) (down : Bool) (digits : List Char) :
    Except Fault Number :=
  let written := Decimal.digitsValue digits
  if 0x80000000 ≤ written then
    if s.value ≠ 0 ∧ !down then .error .malformed
    else inexact negative {} 0
  else inexact negative s (s.exponent + if down then -(written : Int) else written)

def isExponentMark (c : Char) : Bool := c == 'e' || c == 'E'

/-- The exponent after its mark. -/
def readExponent (negative : Bool) (s : Significand) (cs : List Char) :
    Except Fault (Number × List Char) :=
  let (down, cs) := Decimal.readSign cs
  let (digits, rest) := Decimal.spanDigits cs
  if digits.isEmpty then .error (if rest.isEmpty then .cutOff else .malformed)
  else (applyExponent negative s down digits).map (·, rest)

/-- The digits after the point, and an exponent. Digits are tried anew after the point. -/
def readFraction (negative : Bool) (s : Significand) (cs : List Char) :
    Except Fault (Number × List Char) :=
  let (digits, rest) := Decimal.spanDigits cs
  if digits.isEmpty then .error (if rest.isEmpty then .cutOff else .malformed)
  else
    let s := digits.foldl (fun s c => s.pushFraction (digitValue c)) { s with full := false }
    match rest with
    | c :: after =>
        if isExponentMark c then readExponent negative s after
        else (inexact negative s s.exponent).map (·, rest)
    | [] => (inexact negative s s.exponent).map (·, rest)

/-- A number after its sign. A zero is not followed by another digit. -/
def readUnsigned (negative : Bool) (cs : List Char) : Except Fault (Number × List Char) :=
  let (digits, rest) := Decimal.spanDigits cs
  match digits with
  | [] => .error (if rest.isEmpty then .cutOff else .malformed)
  | '0' :: _ :: _ => .error .malformed
  | _ =>
      let s := digits.foldl (fun s c => s.pushWhole (digitValue c)) {}
      match rest with
      | '.' :: after => readFraction negative s after
      | c :: after =>
          if isExponentMark c then readExponent negative s after
          else (whole negative s).map (·, rest)
      | [] => (whole negative s).map (·, rest)

/-- A number at the start of a text, and what follows it. -/
def read : List Char → Except Fault (Number × List Char)
  | '-' :: cs => readUnsigned true cs
  | cs => readUnsigned false cs

end Numeral

end Semblance.Json
