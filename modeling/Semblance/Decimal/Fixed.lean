import Semblance.Decimal.Notation

/-!
# Numbers with a fixed count of decimal places

The exact value of the number is rounded to the given places; halfway cases go to the even digit.
-/

namespace Semblance

/-- A quotient rounded to the nearest whole number, halfway cases to the even one. -/
def roundDiv (numerator denominator : Nat) : Nat :=
  let quotient := numerator / denominator
  let twice := 2 * (numerator % denominator)
  if twice < denominator then quotient
  else if denominator < twice then quotient + 1
  else quotient + quotient % 2

/-- Write a number with exactly `places` digits after the point. -/
def writeFixed (places : Nat) (x : Float) : String :=
  let body (units : Nat) : List Char :=
    let digits := Nat.toDigits 10 units
    let padded := List.replicate (places + 1 - digits.length) '0' ++ digits
    if places = 0 then padded
    else padded.take (padded.length - places) ++ '.' :: padded.drop (padded.length - places)
  match x.toModel.unpack with
  | .notANumber => Notation.plain.nan
  | .infinity s => Notation.signed s Notation.plain.infinity.toList
  | .zero s => Notation.signed s (body 0)
  | .finite s mantissa exponent _ =>
      Notation.signed s <| body <|
        roundDiv ((mantissa * Nat.pow 10 places) <<< exponent.toNat) (1 <<< (-exponent).toNat)

end Semblance
