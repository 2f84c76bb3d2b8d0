/-!
# Whole numbers

The whole number next to a binary64 number.
-/

namespace Semblance.Binary64

open Float.Model Float.Model.UnpackedFloat

/-- The nearest whole number, of two the one farther from zero. It keeps the sign, also as a
zero. -/
def nearestWhole (x : Float) : Float :=
  match x.toModel.unpack with
  | .finite sign mantissa exponent _ =>
      if 0 ≤ exponent then x
      else
        let unit := 1 <<< (-exponent).toNat
        .ofModel (pack (round .binary64 sign ((2 * mantissa + unit) / (2 * unit)) 0))
  | _ => x

end Semblance.Binary64
