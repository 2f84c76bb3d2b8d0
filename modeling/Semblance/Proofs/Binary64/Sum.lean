import Semblance.Proofs.Binary64.Comparison
import Semblance.Proofs.Binary64.Rounding

/-!
# Running sums of binary64 numbers

Addition is not associative, but a sum that starts from zero never becomes the negative zero, so it
may pass over what adds nothing, and each of its terms may itself be a sum that starts from zero.
-/

namespace Semblance.Binary64

open Float.Model Float.Model.UnpackedFloat

def IsNegativeZero (x : Float) : Prop := parts x = .zero .negative

theorem add_eq (x y : Float) : x + y = ofParts ((parts x).add .binary64 (parts y)) := rfl

/-! ## Sums of parts -/

/-- A sum of two finite numbers is rounded, and it is no negative zero. -/
theorem add_finite {s t : Sign} {m n : Nat} {e f : Int} {mpos : 0 < m} {npos : 0 < n}
    (low : -1074 ≤ e) (otherLow : -1074 ≤ f) :
    IsRounded (UnpackedFloat.add .binary64 (.finite s m e mpos) (.finite t n f npos)) ∧
      UnpackedFloat.add .binary64 (.finite s m e mpos) (.finite t n f npos) ≠
        .zero .negative := by
  rw [UnpackedFloat.add]
  dsimp only
  generalize s.apply _ + t.apply _ = sum
  by_cases nonzero : sum = 0
  · rw [nonzero, UnpackedFloat.normalize, show compare (0 : Int) 0 = .eq from rfl]
    refine ⟨trivial, ?_⟩
    intro negative
    cases negative
  · obtain ⟨r, k, g, pos, same, rounded⟩ :=
      normalize_ne_zero nonzero (show -1074 ≤ min e f by omega) .positive
    rw [same]
    refine ⟨rounded, ?_⟩
    intro negative
    cases negative

theorem isRounded_add {u v : UnpackedFloat} (left : IsRounded u) (right : IsRounded v) :
    IsRounded (u.add .binary64 v) := by
  cases u with
  | notANumber => trivial
  | infinity s =>
      cases v with
      | infinity t => cases s <;> cases t <;> trivial
      | _ => trivial
  | zero s =>
      cases v with
      | zero t => cases s <;> cases t <;> trivial
      | finite t n f pos => exact right
      | _ => trivial
  | finite s m e mpos =>
      cases v with
      | zero t => exact left
      | finite t n f npos => exact (add_finite left.2.1 right.2.1).1
      | _ => trivial

theorem parts_add (x y : Float) : parts (x + y) = overflowed ((parts x).add .binary64 (parts y)) :=
  parts_ofParts (isRounded_add (isRounded_parts x) (isRounded_parts y))

/-! ## Sums of numbers -/

theorem not_isNegativeZero_zero : ¬ IsNegativeZero 0.0 := by
  intro negative
  cases parts_zero.symm.trans negative

theorem not_isNegativeZero_add {x : Float} (running : ¬ IsNegativeZero x) (y : Float) :
    ¬ IsNegativeZero (x + y) := by
  have low := isRounded_parts x
  have otherLow := isRounded_parts y
  rw [IsNegativeZero] at running
  rw [IsNegativeZero, parts_add]
  generalize parts x = u at *
  generalize parts y = v at *
  -- Opposite infinities make no number, and finite numbers that cancel make the positive zero.
  have sum : u.add .binary64 v ≠ .zero .negative := by
    intro negative
    cases u with
    | notANumber => cases negative
    | infinity s =>
        cases v with
        | infinity t => cases s <;> cases t <;> cases negative
        | _ => cases negative
    | zero s =>
        cases s with
        | negative => exact running rfl
        | positive =>
            cases v with
            | zero t => cases t <;> cases negative
            | _ => cases negative
    | finite s m e mpos =>
        cases v with
        | finite t n f npos => exact (add_finite low.2.1 otherLow.2.1).2 negative
        | _ => cases negative
  -- Holding the sum in 64 bits may make an infinity of it, but no zero.
  generalize u.add .binary64 v = w at *
  intro negative
  cases w with
  | zero s => exact sum negative
  | finite s m e pos =>
      rw [overflowed] at negative
      split at negative <;> cases negative
  | _ => cases negative

/-- What adds nothing may be passed over. -/
theorem add_of_isZero {x y : Float} (running : ¬ IsNegativeZero x) (zero : IsZero y) :
    x + y = x := by
  obtain ⟨t, zero⟩ := zero
  have same : (parts x).add .binary64 (parts y) = parts x := by
    rw [IsNegativeZero] at running
    rw [zero]
    generalize parts x = u at *
    cases u with
    | zero s =>
        cases s with
        | negative => exact absurd rfl running
        | positive => cases t <;> rfl
    | _ => rfl
  rw [add_eq, same, ofParts_parts]

/-- A term may itself be a sum that starts from zero. -/
theorem add_zero_add {x : Float} (running : ¬ IsNegativeZero x) (y : Float) :
    x + (0.0 + y) = x + y := by
  -- A zero may lose its sign when it is added to zero, but a running sum passes over it anyway.
  by_cases zero : IsZero y
  · rw [add_of_isZero not_isNegativeZero_zero zero, add_of_isZero running zero,
      add_of_isZero running ⟨.positive, parts_zero⟩]
  · have same : (parts 0.0).add .binary64 (parts y) = parts y := by
      rw [parts_zero]
      cases shape : parts y with
      | zero t => exact absurd ⟨t, shape⟩ zero
      | _ => rfl
    rw [add_eq 0.0 y, same, ofParts_parts]

/-- The numbers of a list added up from the left. -/
def sum (xs : List Float) : Float := xs.foldl (· + ·) 0.0

/-- A running sum may be grouped where each group has one term at most. -/
theorem foldl_add_flatMap {α : Type} (terms : α → List Float) (single : ∀ a, (terms a).length ≤ 1)
    (as : List α) {x : Float} (running : ¬ IsNegativeZero x) :
    (as.flatMap terms).foldl (· + ·) x = (as.map fun a => sum (terms a)).foldl (· + ·) x := by
  induction as generalizing x with
  | nil => rfl
  | cons a rest ih =>
      rw [List.flatMap_cons, List.foldl_append, List.map_cons, List.foldl_cons]
      have short := single a
      cases shape : terms a with
      | nil =>
          -- A group without terms sums up to zero.
          have passed : x + sum [] = x := add_of_isZero running ⟨.positive, parts_zero⟩
          rw [passed]
          exact ih running
      | cons y more =>
          have last : more = [] := by
            rw [shape] at short
            exact List.eq_nil_of_length_eq_zero (by simpa using short)
          subst last
          have grouped : x + sum [y] = x + y := add_zero_add running y
          rw [grouped]
          exact ih (not_isNegativeZero_add running y)

/-- Terms that come one at a time, or not at all, may be summed by themselves first. -/
theorem sum_flatMap {α : Type} (terms : α → List Float) (single : ∀ a, (terms a).length ≤ 1)
    (as : List α) : sum (as.flatMap terms) = sum (as.map fun a => sum (terms a)) :=
  foldl_add_flatMap terms single as not_isNegativeZero_zero

end Semblance.Binary64
