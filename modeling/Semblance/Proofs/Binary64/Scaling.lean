import Semblance.Proofs.Binary64.Comparison
import Semblance.Proofs.Binary64.Rounding

/-!
# Scaling by a factor from one on

Such a factor makes no number smaller, so it takes nothing positive to zero, however small it is.
-/

namespace Semblance.Binary64

open Float.Model Float.Model.UnpackedFloat

theorem mul_eq (x y : Float) : x * y = ofParts ((parts x).mul .binary64 (parts y)) := rfl

/-! ## Signs -/

theorem zero_lt_iff (x : Float) :
    0.0 < x ↔ parts x = .infinity .positive ∨ ∃ m e pos, parts x = .finite .positive m e pos := by
  rw [lt_iff, parts_zero]
  cases parts x with
  | notANumber => simp [UnpackedFloat.lt, UnpackedFloat.compare]
  | infinity s => cases s <;> simp [UnpackedFloat.lt, UnpackedFloat.compare]
  | zero s => simp [UnpackedFloat.lt, UnpackedFloat.compare]
  | finite s m e pos => cases s <;> simp [UnpackedFloat.lt, UnpackedFloat.compare, pos]

theorem zero_le_iff (x : Float) : 0.0 ≤ x ↔ IsZero x ∨ 0.0 < x := by
  rw [zero_lt_iff, le_iff, parts_zero, IsZero]
  cases parts x with
  | notANumber => simp [UnpackedFloat.le, UnpackedFloat.compare]
  | infinity s => cases s <;> simp [UnpackedFloat.le, UnpackedFloat.compare]
  | zero s => simp [UnpackedFloat.le, UnpackedFloat.compare]
  | finite s m e pos => cases s <;> simp [UnpackedFloat.le, UnpackedFloat.compare, pos]

theorem not_zero_lt_of_isZero {x : Float} (zero : IsZero x) : ¬ 0.0 < x := by
  obtain ⟨s, zero⟩ := zero
  rw [zero_lt_iff, zero]
  rintro (infinite | ⟨m, e, pos, finite⟩)
  · cases infinite
  · cases finite

theorem zero_le_zero : (0.0 : Float) ≤ 0.0 := (le_iff _ _).mpr rfl

theorem not_zero_lt_of_le_zero {x : Float} (le : x ≤ 0.0) : ¬ 0.0 < x := by
  intro positive
  rw [le_iff, parts_zero] at le
  rcases (zero_lt_iff x).mp positive with shape | ⟨m, e, pos, shape⟩
  · rw [shape] at le
    cases le
  · rw [shape] at le
    cases le

theorem parts_of_zero_lt {x : Float} (positive : 0.0 < x) (overflows : x.isFinite = false) :
    parts x = .infinity .positive := by
  rcases (zero_lt_iff x).mp positive with shape | ⟨m, e, pos, shape⟩
  · exact shape
  · rw [isFinite_eq, shape] at overflows
    cases overflows

/-! ## Factors -/

/-- A finite number from one on has a full mantissa whose last digit is worth `2 ^ -52` or more. -/
theorem parts_of_one_le {s : Float} (finite : s.isFinite = true) (large : 1.0 ≤ s) :
    ∃ m e pos, parts s = .finite .positive m e pos ∧ 2 ^ 52 ≤ m ∧ -52 ≤ e := by
  have rounded := isRounded_parts s
  rw [isFinite_eq] at finite
  rw [le_iff, parts_one] at large
  generalize parts s = u at *
  cases u with
  | notANumber => cases finite
  | infinity t => cases finite
  | zero t => cases large
  | finite t m e pos =>
      cases t with
      | negative => cases large
      | positive =>
          obtain ⟨-, -, full⟩ := rounded
          have order : ((compare (-52 : Int) e).then (compare (2 ^ 52) m)).isLE = true := large
          refine ⟨m, e, pos, rfl, ?_⟩
          rcases Int.lt_trichotomy (-52) e with above | same | below
          · exact ⟨full.resolve_right (by omega), by omega⟩
          · subst same
            exact ⟨full.resolve_right (by omega), by omega⟩
          · rw [Int.compare_eq_gt.mpr below] at order
            cases order

theorem zero_lt_of_one_le {s : Float} (finite : s.isFinite = true) (large : 1.0 ≤ s) :
    0.0 < s := by
  obtain ⟨m, e, pos, shape, -, -⟩ := parts_of_one_le finite large
  exact (zero_lt_iff s).mpr (.inr ⟨m, e, pos, shape⟩)

/-- The product of finite positive parts with a factor from one on is not rounded to zero. -/
theorem mul_finite_positive {m n : Nat} {e f : Int} (mpos : 0 < m) (npos : 0 < n)
    (low : -1074 ≤ e) (full : 2 ^ 52 ≤ n) (large : -52 ≤ f) :
    ∃ r t pos,
      UnpackedFloat.mul .binary64 (.finite .positive m e mpos) (.finite .positive n f npos) =
        .finite .positive r t pos ∧ IsRounded (.finite .positive r t pos) := by
  have wide : 2 ^ 52 ≤ m * n := Nat.le_trans full (Nat.le_mul_of_pos_left n mpos)
  have bits : 52 ≤ (m * n).log2 := (Nat.le_log2 (by omega)).mpr wide
  apply roundWithAccuracy_finite
  · exact Nat.le_trans (Nat.pow_le_pow_right (by decide) (by omega)) wide
  · omega

/-- A product with a factor from one on is positive when the other number is. -/
theorem zero_lt_mul_iff {x s : Float} (nonneg : 0.0 ≤ x) (finite : s.isFinite = true)
    (large : 1.0 ≤ s) : 0.0 ≤ x * s ∧ (0.0 < x * s ↔ 0.0 < x) := by
  obtain ⟨n, f, npos, factor, full, low⟩ := parts_of_one_le finite large
  have rounded := isRounded_parts x
  rw [zero_le_iff] at nonneg
  rcases nonneg with zero | positive
  · have stays : IsZero (x * s) := by
      obtain ⟨t, zero⟩ := zero
      exact ⟨t * .positive, by rw [mul_eq, zero, factor]; exact parts_ofParts trivial⟩
    exact ⟨(zero_le_iff _).mpr (.inl stays),
      iff_of_false (not_zero_lt_of_isZero stays) (not_zero_lt_of_isZero zero)⟩
  · have grows : 0.0 < x * s := by
      rw [zero_lt_iff] at positive ⊢
      rw [mul_eq, factor]
      rcases positive with infinite | ⟨m, e, mpos, shape⟩
      · rw [infinite]
        exact .inl (parts_ofParts trivial)
      · rw [shape] at rounded
        obtain ⟨r, t, pos, same, fits⟩ := mul_finite_positive mpos npos rounded.2.1 full low
        rw [shape, same, parts_ofParts fits, overflowed]
        split
        · exact .inl rfl
        · exact .inr ⟨r, t, pos, rfl⟩
    exact ⟨(zero_le_iff _).mpr (.inr grows), iff_of_true grows positive⟩

/-! ## Factors that may be infinite -/

theorem isFinite_or_infinite_of_one_le {s : Float} (large : 1.0 ≤ s) :
    s.isFinite = true ∨ parts s = .infinity .positive := by
  rw [le_iff, parts_one] at large
  rw [isFinite_eq]
  cases shape : parts s with
  | notANumber =>
      rw [shape] at large
      cases large
  | infinity sign =>
      rw [shape] at large
      cases sign with
      | positive => exact .inr rfl
      | negative => cases large
  | zero sign => exact .inl rfl
  | finite sign m e pos => exact .inl rfl

theorem zero_le_of_one_le {s : Float} (large : 1.0 ≤ s) : 0.0 ≤ s := by
  rw [zero_le_iff]
  rcases isFinite_or_infinite_of_one_le large with finite | infinite
  · exact .inr (zero_lt_of_one_le finite large)
  · exact .inr ((zero_lt_iff s).mpr (.inl infinite))

/-- The factor may be infinite too. -/
theorem zero_le_mul {x s : Float} (positive : 0.0 < x) (large : 1.0 ≤ s) : 0.0 ≤ x * s := by
  rcases isFinite_or_infinite_of_one_le large with finite | infinite
  · exact (zero_lt_mul_iff ((zero_le_iff x).mpr (.inr positive)) finite large).1
  · have product : (parts x).mul .binary64 (parts s) = .infinity .positive := by
      rw [infinite]
      rcases (zero_lt_iff x).mp positive with shape | ⟨m, e, pos, shape⟩ <;> rw [shape] <;> rfl
    rw [le_iff, mul_eq, product]
    rfl

end Semblance.Binary64
