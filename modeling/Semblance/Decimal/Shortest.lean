/-!
# Shortest decimals

The decimal with the fewest digits that a reader rounds back to a given binary number, and of
those the nearest one. The search runs over decimal grids from coarse to fine and looks at the two
neighbours of the number on each, in exact integer arithmetic.
-/

namespace Semblance

/-- The number `coefficient * 10 ^ exponent`. -/
structure Decimal where
  coefficient : Nat
  exponent : Int
  deriving DecidableEq, Repr

namespace Decimal

/-- Which neighbour is taken when both are equally near. -/
inductive Tie where
  | toEven
  | up
  deriving DecidableEq, Repr

/-- A positive number and the ends of the interval that rounds to it, all as multiples of one unit
`scale / divisor`. The ends belong to the interval when `closed` holds. -/
structure Interval where
  lower : Nat
  value : Nat
  upper : Nat
  closed : Bool
  unitExponent : Int

namespace Interval

/-- The interval around `mantissa * 2 ^ exponent` in binary64. Below a power of two the neighbours
are half as far apart, except among the smallest numbers. -/
def ofBinary64 (mantissa : Nat) (exponent : Int) : Interval where
  lower := 4 * mantissa - (if mantissa = 0x10000000000000 ∧ exponent > -1074 then 1 else 2)
  value := 4 * mantissa
  upper := 4 * mantissa + 2
  closed := mantissa % 2 = 0
  unitExponent := exponent - 2

/-- The unit of the interval over `10 ^ gridExponent`, as numerator and denominator. -/
def ratio (i : Interval) (gridExponent : Int) : Nat × Nat :=
  (Nat.pow 10 (-gridExponent).toNat <<< i.unitExponent.toNat,
    Nat.pow 10 gridExponent.toNat <<< (-i.unitExponent).toNat)

/-- The nearest multiple of `10 ^ gridExponent` to the value that lies in the interval. -/
def pointOnGrid (i : Interval) (tie : Tie) (gridExponent : Int) : Option Decimal :=
  let (scale, divisor) := i.ratio gridExponent
  let below := i.value * scale / divisor
  let remainder := i.value * scale % divisor
  let inside (point : Nat) : Bool :=
    if i.closed then i.lower * scale ≤ point * divisor && point * divisor ≤ i.upper * scale
    else i.lower * scale < point * divisor && point * divisor < i.upper * scale
  let upFirst := 2 * remainder > divisor ||
    (2 * remainder == divisor && (tie == .up || below % 2 == 1))
  let order := if upFirst then [below + 1, below] else [below, below + 1]
  (order.find? fun point => 0 < point && inside point).map fun point => ⟨point, gridExponent⟩

end Interval

/-- An exponent of ten above the number `mantissa * 2 ^ exponent`, at most two too large. -/
def magnitudeBound (mantissa : Nat) (exponent : Int) : Int :=
  ((mantissa.log2 : Int) + exponent + 1) * 30103 / 100000 + 2

/-- The shortest decimal for `mantissa * 2 ^ exponent`, a positive binary64 number. -/
def shortest (tie : Tie) (mantissa : Nat) (exponent : Int) : Decimal :=
  let interval := Interval.ofBinary64 mantissa exponent
  let top := magnitudeBound mantissa exponent
  let found := (List.range 22).findSome? fun (step : Nat) => interval.pointOnGrid tie (top - step)
  found.getD ⟨mantissa <<< exponent.toNat * Nat.pow 5 (-exponent).toNat, min exponent 0⟩

/-- The digits of the coefficient. -/
def digits (d : Decimal) : List Char := Nat.toDigits 10 d.coefficient

/-- The exponent of the first digit: `d.coefficient` is read as `x.xxx * 10 ^ leadingExponent`. -/
def leadingExponent (d : Decimal) : Int := d.exponent + d.digits.length - 1

end Decimal

end Semblance
