import Semblance.Decimal.Notation

/-!
# Numbers

A number is an integer of 64 bits, signed or unsigned, or a finite binary64 number. The two kinds
compare by their value as binary64 but are written differently.
-/

namespace Semblance

inductive Number where
  | int (value : Int) (lower : -0x8000000000000000 ≤ value)
      (upper : value < 0x10000000000000000)
  | float (value : Float) (finite : value.isFinite = true)
  deriving DecidableEq

namespace Number

/-- The nearest binary64 number. -/
def toFloat : Number → Float
  | int value _ _ => Float.ofInt value
  | float value _ => value

/-- An integer, when it has 64 bits. -/
def ofInt? (value : Int) : Option Number :=
  if h : -0x8000000000000000 ≤ value ∧ value < 0x10000000000000000 then
    some (int value h.1 h.2)
  else none

def ofFloat? (value : Float) : Option Number :=
  if h : value.isFinite = true then some (float value h) else none

/-- A natural number, as an integer while it has 64 bits. -/
def ofNat (n : Nat) : Number :=
  if h : n < 0x10000000000000000 then int n (by omega) (by omega)
  else (ofFloat? (Float.ofNat n)).getD (int 0 (by omega) (by omega))

/-- The value as a signed integer of 64 bits, for integers that fit. -/
def toInt64? : Number → Option Int
  | int value _ _ => if value < 0x8000000000000000 then some value else none
  | float _ _ => none

/-- The value as a natural number, for non-negative integers. -/
def toNat? : Number → Option Nat
  | int value _ _ => if 0 ≤ value then some value.toNat else none
  | float _ _ => none

/-- The number as JSON text. -/
def toJson : Number → String
  | int value _ _ => toString value
  | float value _ => Notation.json.write value

end Number

end Semblance
