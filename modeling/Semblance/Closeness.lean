import Semblance.Binary64.Exponential
import Semblance.Binary64.Whole

/-!
# Closeness of two numbers

Comparators take two numbers and a range `(min, reference, max)`. What counts is the distance of
the numbers against the upper half of the range, on whichever side of each other they lie; the
lower end takes no part.
-/

namespace Semblance.Closeness

/-- One for equal numbers, falling in a line to zero at the distance `max - reference`. -/
def linear (l r _min reference max : Float) : Float :=
  let distance := (r - l).abs
  if distance == 0.0 then 1.0
  else
    let reach := max - reference
    if distance > reach then 0.0 else 1.0 - distance / reach

/-- The linear closeness on a bell curve, rounded to three decimals. -/
def gaussian (l r min reference max : Float) : Float :=
  let offset := linear l r min reference max - 1.0
  let bell := Binary64.exponential (-(offset * offset))
  Binary64.nearestWhole (bell * bell * bell * 1000.0) / 1000.0

end Semblance.Closeness
