import Semblance.Proofs.Binary64.Difference
import Semblance.Proofs.Value.Number
import Semblance.RangeSpec

/-!
# Closeness and distance

Comparators look at the distance of two numbers, and a difference is the same in both directions up
to its sign, even when it is rounded. So closeness does not take sides. Equal finite numbers have no
distance and are as close as can be; equal infinite numbers have no distance that is a number, and no
closeness.
-/

namespace Semblance

open Binary64 Float.Model Float.Model.UnpackedFloat

/-! ## Both sides -/

namespace Closeness

theorem linear_comm (l r min reference max : Float) :
    linear l r min reference max = linear r l min reference max := by
  unfold linear
  rw [Binary64.abs_sub_swap r l]

theorem gaussian_comm (l r min reference max : Float) :
    gaussian l r min reference max = gaussian r l min reference max := by
  unfold gaussian
  rw [linear_comm]

end Closeness

theorem RangeSpec.score_comm (s : RangeSpec) (l r : Float) : s.score l r = s.score r l := by
  unfold score
  cases s.kind with
  | linear => exact Closeness.linear_comm l r s.min s.reference s.max
  | gaussian => exact Closeness.gaussian_comm l r s.min s.reference s.max

/-! ## Equal numbers -/

namespace Binary64

variable {x y : Float}

theorem eq_notANumber (shape : parts x = .notANumber) : x = 0.0 / 0.0 := parts_injective shape

theorem isNaN_eq_false_of_beq (equal : x == y) : x.isNaN = false := by
  rcases (beq_iff x y).mp equal with ⟨number, -⟩ | ⟨zero, -⟩
  · exact number
  · exact Value.isNaN_eq_false_of_isFinite (isFinite_of_isZero zero)

theorem isFinite_eq_of_beq (equal : x == y) : x.isFinite = y.isFinite := by
  rcases (beq_iff x y).mp equal with ⟨-, rfl⟩ | ⟨left, right⟩
  · rfl
  · rw [isFinite_of_isZero left, isFinite_of_isZero right]

/-- Of equal numbers that are infinite, the difference is no number. -/
theorem sub_of_infinite (equal : x == y) (infinite : x.isFinite = false) :
    parts (x - y) = .notANumber := by
  rcases (beq_iff x y).mp equal with ⟨number, rfl⟩ | ⟨zero, -⟩
  · rw [isNaN_eq] at number
    rw [isFinite_eq] at infinite
    rw [sub_eq, sub_parts_self]
    cases shape : parts x with
    | infinity s => exact parts_ofParts trivial
    | notANumber =>
        rw [shape] at number
        cases number
    | _ =>
        rw [shape] at infinite
        cases infinite
  · rw [isFinite_of_isZero zero] at infinite
    cases infinite

end Binary64

namespace Closeness

variable {l r : Float} (min reference max : Float)

theorem linear_of_beq (equal : l == r) (finite : l.isFinite = true) :
    linear l r min reference max = 1.0 := by
  rw [beq_comm] at equal
  have none : IsZero (r - l).abs :=
    isZero_abs (isZero_sub_of_beq equal ((isFinite_eq_of_beq equal).trans finite))
  exact if_pos ((isZero_iff _).mp none)

/-- Without a distance, the comparison with the range decides nothing. -/
theorem linear_of_infinite (equal : l == r) (infinite : l.isFinite = false) :
    linear l r min reference max = 0.0 / 0.0 := by
  rw [beq_comm] at equal
  have none : (r - l).abs = 0.0 / 0.0 := by
    apply eq_notANumber
    rw [abs_eq, sub_of_infinite equal ((isFinite_eq_of_beq equal).trans infinite)]
    exact parts_ofParts trivial
  have notBeyond (reach : Float) : ¬ (0.0 / 0.0 : Float) > reach := by
    rw [gt_iff_lt, lt_iff]
    cases parts reach <;> exact Bool.false_ne_true
  have quotient (reach : Float) : (0.0 / 0.0 : Float) / reach = 0.0 / 0.0 := by
    apply eq_notANumber
    exact parts_ofParts trivial
  rw [linear, none, if_neg (by decide +kernel)]
  dsimp only
  rw [if_neg (notBeyond _), quotient]
  decide +kernel

variable {min reference max}

/-- The bell has its top over the full closeness. -/
theorem gaussian_of_linear_eq_one (exact : linear l r min reference max = 1.0) :
    gaussian l r min reference max = 1.0 := by
  rw [gaussian, exact]
  decide +kernel

theorem gaussian_of_linear_eq_notANumber (none : linear l r min reference max = 0.0 / 0.0) :
    gaussian l r min reference max = 0.0 / 0.0 := by
  rw [gaussian, none]
  decide +kernel

end Closeness

end Semblance
