import Semblance.Proofs.Binary64.Parts

/-!
# Comparing binary64 numbers

Numbers are equal when their bits are, except that the two zeros are equal and what is no number
equals nothing.
-/

namespace Semblance.Binary64

open Float.Model Float.Model.UnpackedFloat

def IsZero (x : Float) : Prop := ∃ s, parts x = .zero s

theorem beq_eq (x y : Float) : (x == y) = (parts x).beq (parts y) := rfl

theorem isNaN_eq (x : Float) : x.isNaN = (parts x).isNaN := rfl

theorem isFinite_eq (x : Float) : x.isFinite = (parts x).isFinite := rfl

theorem isInf_of_not_isFinite {x : Float} (number : x.isNaN = false)
    (infinite : ¬ x.isFinite = true) : x.isInf = true := by
  rw [isNaN_eq] at number
  rw [isFinite_eq] at infinite
  change (parts x).isInf = true
  cases shape : parts x with
  | infinity s => rfl
  | notANumber =>
      rw [shape] at number
      cases number
  | zero s =>
      rw [shape] at infinite
      exact absurd rfl infinite
  | finite s m e pos =>
      rw [shape] at infinite
      exact absurd rfl infinite

theorem lt_iff (x y : Float) : x < y ↔ (parts x).lt (parts y) = true := decide_eq_true_iff

theorem le_iff (x y : Float) : x ≤ y ↔ (parts x).le (parts y) = true := decide_eq_true_iff

theorem parts_zero : parts 0.0 = .zero .positive := rfl

theorem parts_one : parts 1.0 = .finite .positive (2 ^ 52) (-52) (by decide) := rfl

/-- Numbers are equal when they are the same number or both zero. -/
theorem beq_iff (x y : Float) :
    x == y ↔ (x.isNaN = false ∧ x = y) ∨ (IsZero x ∧ IsZero y) := by
  have same : parts x = parts y ↔ x = y := ⟨parts_injective, congrArg parts⟩
  have number : parts x ≠ .notANumber ↔ x.isNaN = false := by
    rw [isNaN_eq]
    cases parts x <;> simp [UnpackedFloat.isNaN]
  rw [beq_eq, beq_iff_ne_notANumber_and_eq, ← number, same]
  constructor
  · rintro ⟨isNumber, -, equal | ⟨left, right⟩ | ⟨left, right⟩⟩
    · exact .inl ⟨isNumber, equal⟩
    · exact .inr ⟨⟨_, left⟩, ⟨_, right⟩⟩
    · exact .inr ⟨⟨_, left⟩, ⟨_, right⟩⟩
  · rintro (⟨isNumber, rfl⟩ | ⟨⟨s, left⟩, ⟨t, right⟩⟩)
    · exact ⟨isNumber, isNumber, .inl rfl⟩
    · -- Two zeros are equal, whatever their signs.
      rw [← same, left, right]
      refine ⟨by simp, by simp, ?_⟩
      cases s <;> cases t <;> simp

theorem beq_comm (x y : Float) : (x == y) = (y == x) := by
  rw [Bool.eq_iff_iff, beq_iff, beq_iff]
  constructor
  · rintro (⟨number, rfl⟩ | ⟨left, right⟩)
    · exact .inl ⟨number, rfl⟩
    · exact .inr ⟨right, left⟩
  · rintro (⟨number, rfl⟩ | ⟨left, right⟩)
    · exact .inl ⟨number, rfl⟩
    · exact .inr ⟨right, left⟩

theorem isZero_iff_of_beq {x y : Float} (equal : x == y) : IsZero x ↔ IsZero y := by
  rcases (beq_iff x y).mp equal with ⟨-, rfl⟩ | ⟨left, right⟩
  · exact Iff.rfl
  · exact iff_of_true left right

theorem beq_trans {x y z : Float} (first : x == y) (second : y == z) : x == z := by
  rcases (beq_iff x y).mp first with ⟨-, rfl⟩ | ⟨left, -⟩
  · exact second
  · -- All three are zeros.
    have right : IsZero z := (isZero_iff_of_beq second).mp ((isZero_iff_of_beq first).mp left)
    exact (beq_iff x z).mpr (.inr ⟨left, right⟩)

theorem isZero_iff (x : Float) : IsZero x ↔ x == 0.0 := by
  rw [beq_iff]
  constructor
  · intro zero
    exact .inr ⟨zero, .positive, rfl⟩
  · rintro (⟨-, rfl⟩ | ⟨zero, -⟩)
    · exact ⟨.positive, rfl⟩
    · exact zero

end Semblance.Binary64
