import Semblance.Proofs.Binary64.Finite
import Semblance.Value.Coercion

/-!
# Computed numbers as values

A computed number is held as an integer where one says the same. It reads as the very number it was,
sign of zero included.
-/

namespace Semblance.Value

open Binary64 Float.Model Float.Model.UnpackedFloat

theorem isNaN_eq_false_of_isFinite {x : Float} (finite : x.isFinite = true) : x.isNaN = false := by
  rw [isFinite_eq] at finite
  rw [isNaN_eq]
  cases shape : parts x with
  | notANumber =>
      rw [shape] at finite
      cases finite
  | _ => rfl

/-- The positive zero is the only one whose sign bit is not set. -/
theorem eq_zero_of_isSignPositive {x : Float} (zero : IsZero x) (sign : isSignPositive x = true) :
    x = 0.0 := by
  obtain ⟨s, shape⟩ := zero
  cases s with
  | positive => exact parts_injective shape
  | negative =>
      have negative : x = -0.0 := parts_injective shape
      subst negative
      revert sign
      decide +kernel

/-- A whole number stands for a computed one if it is equal to it, and a zero only for the positive
zero. -/
theorem ofInt_eq_of_beq {n : Int} {x : Float} (equal : Float.ofInt n == x)
    (sign : n ≠ 0 ∨ isSignPositive x = true) : Float.ofInt n = x := by
  rcases (beq_iff _ _).mp equal with ⟨-, same⟩ | ⟨left, right⟩
  · exact same
  · have isZero : n = 0 := eq_zero_of_isZero_ofInt left
    rcases sign with nonzero | sign
    · exact absurd isZero nonzero
    · rw [isZero, eq_zero_of_isSignPositive right sign]
      rfl

theorem ofFloat_eq_null_or_number (x : Float) : ofFloat x = null ∨ ∃ n, ofFloat x = number n := by
  rw [ofFloat]
  split
  · exact .inr ⟨_, rfl⟩
  · split
    · exact .inr ⟨_, rfl⟩
    · exact .inl rfl

theorem exists_ofFloat_eq_number {x : Float} (finite : x.isFinite = true) :
    ∃ n, ofFloat x = number n := by
  rw [ofFloat, Number.ofFloat?, dif_pos finite]
  split
  · exact ⟨_, rfl⟩
  · exact ⟨_, rfl⟩

theorem toFloat_of_ofFloat_eq_number {x : Float} {n : Number} (held : ofFloat x = number n) :
    n.toFloat = x := by
  rw [ofFloat] at held
  split at held
  · rename_i whole
    simp only [Bool.and_eq_true, Bool.or_eq_true, bne_iff_ne] at whole
    obtain ⟨⟨-, equal⟩, sign⟩ := whole
    cases held
    refine ofInt_eq_of_beq equal (sign.imp_left ?_)
    intro nonzero isZero
    exact nonzero (Int64.toInt_inj.mp (isZero.trans Int64.toInt_zero.symm))
  · by_cases finite : x.isFinite = true
    · rw [Number.ofFloat?, dif_pos finite] at held
      cases held
      rfl
    · rw [Number.ofFloat?, dif_neg finite] at held
      cases held

/-- A number that is not finite is held as nothing. -/
theorem ofFloat_eq_null {x : Float} (infinite : x.isFinite = false) : ofFloat x = null := by
  rcases ofFloat_eq_null_or_number x with missing | ⟨n, held⟩
  · exact missing
  · have finite := isFinite_toFloat n
    rw [toFloat_of_ofFloat_eq_number held, infinite] at finite
    cases finite

/-- A finite number reads as itself. -/
theorem toNumber_ofFloat {x : Float} (finite : x.isFinite = true) : (ofFloat x).toNumber = x := by
  obtain ⟨n, held⟩ := exists_ofFloat_eq_number finite
  rw [held]
  exact toFloat_of_ofFloat_eq_number held

/-- No other number is held like a finite one. -/
theorem eq_of_ofFloat_eq {x y : Float} (finite : y.isFinite = true) (same : ofFloat x = ofFloat y) :
    x = y := by
  obtain ⟨n, held⟩ := exists_ofFloat_eq_number finite
  rw [← toFloat_of_ofFloat_eq_number held, ← toFloat_of_ofFloat_eq_number (same.trans held)]

end Semblance.Value
