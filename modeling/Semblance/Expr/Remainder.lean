/-!
# Remainders

The remainder of a division that is rounded toward zero. It is exact and has the sign of the
dividend.
-/

namespace Semblance

open Float.Model Float.Model.UnpackedFloat in
/-- What is left of the first number after taking away the second as often as it fits. -/
def remainder (x y : Float) : Float :=
  match x.toModel.unpack, y.toModel.unpack with
  | .finite sign m e _, .finite _ n f _ =>
      let unit := min e f
      let left := m <<< (e - unit).toNat % n <<< (f - unit).toNat
      if left = 0 then .ofModel (pack (.zero sign))
      else .ofModel (pack (round .binary64 sign left unit))
  | .finite .., .infinity _ => x
  | .zero _, .finite .. => x
  | .zero _, .infinity _ => x
  | _, _ => 0.0 / 0.0

end Semblance
