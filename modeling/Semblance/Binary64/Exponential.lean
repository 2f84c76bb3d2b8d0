/-!
# The exponential

The powers of Euler's number as binary64 numbers. The power is computed to more digits than a number
holds and is then rounded once: a small fraction of the exponent is put into the exponential series,
and the sum is squared until the whole exponent is reached.
-/

namespace Semblance.Binary64

open Float.Model Float.Model.UnpackedFloat

/-- Digits after the binary point of the numbers that a power is computed with. -/
def workingDigits : Nat := 256

/-- How often an exponent is halved before it is put into the series. -/
def halvings : Nat := 16

/-- The exponential series, summed from its last term on. -/
def exponentialSeries (x : Nat) : Nat :=
  let one := 1 <<< workingDigits
  (List.range 40).foldr (fun i sum => one + x * sum / (one * (i + 1))) one

/-- The power for the exponent `mantissa * 2 ^ exponent`, in units of the last working digit. -/
def powerOfEuler (mantissa : Nat) (exponent : Int) : Nat :=
  let shift := exponent + workingDigits - halvings
  let fraction := mantissa <<< shift.toNat >>> (-shift).toNat
  Nat.repeat (fun power => (power * power) >>> workingDigits) halvings
    (exponentialSeries fraction)

/-- The number next to the power of Euler's number. -/
def exponential (x : Float) : Float :=
  match x.toModel.unpack with
  | .notANumber => x
  | .infinity .positive => x
  | .infinity .negative => 0.0
  | .zero _ => 1.0
  | .finite sign mantissa exponent _ =>
      -- From 1024 on the power is too large to be held, and its reciprocal too small.
      if 10 ≤ mantissa.log2 + exponent then
        match sign with
        | .positive => 1.0 / 0.0
        | .negative => 0.0
      else
        let power := powerOfEuler mantissa exponent
        match sign with
        | .positive => .ofModel (pack (round .binary64 .positive power (-workingDigits)))
        | .negative =>
            let digits := 8 * workingDigits
            let reciprocal := (1 <<< digits) / power
            .ofModel (pack (round .binary64 .positive reciprocal (workingDigits - digits)))

end Semblance.Binary64
