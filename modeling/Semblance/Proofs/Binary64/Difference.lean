import Semblance.Proofs.Binary64.Sum

/-!
# Differences of binary64 numbers

A difference is the sum with the negated number, and rounding does not look at the sign. So two
numbers that change places leave the magnitude of their difference as it is.
-/

namespace Semblance.Binary64

open Float.Model Float.Model.UnpackedFloat

theorem sub_eq (x y : Float) : x - y = ofParts ((parts x).sub .binary64 (parts y)) := rfl

theorem abs_eq (x : Float) : x.abs = ofParts (parts x).abs := rfl

/-! ## Differences of parts -/

theorem apply_neg (s : Sign) (n : Int) : (-s).apply n = -s.apply n := by
  cases s with
  | negative => exact (Int.neg_neg n).symm
  | positive => rfl

theorem sub_eq_add_neg (u v : UnpackedFloat) : u.sub .binary64 v = u.add .binary64 v.neg := by
  cases u with
  | notANumber => cases v <;> rfl
  | infinity s => cases v <;> rfl
  | zero s => cases v <;> rfl
  | finite s m e mpos =>
      cases v with
      | finite t n f npos =>
          have mantissa (a b : Int) : s.apply a - t.apply b = s.apply a + (-t).apply b := by
            rw [apply_neg, Int.sub_eq_add_neg]
          simp only [UnpackedFloat.sub, UnpackedFloat.neg, UnpackedFloat.add, mantissa]
      | _ => rfl

theorem isRounded_neg {u : UnpackedFloat} (rounded : IsRounded u) : IsRounded u.neg := by
  cases u <;> exact rounded

theorem isRounded_sub {u v : UnpackedFloat} (left : IsRounded u) (right : IsRounded v) :
    IsRounded (u.sub .binary64 v) := by
  rw [sub_eq_add_neg]
  exact isRounded_add left (isRounded_neg right)

theorem parts_sub (x y : Float) : parts (x - y) = overflowed ((parts x).sub .binary64 (parts y)) :=
  parts_ofParts (isRounded_sub (isRounded_parts x) (isRounded_parts y))

/-! ## Magnitudes -/

theorem abs_overflowed (u : UnpackedFloat) : (overflowed u).abs = overflowed u.abs := by
  cases u with
  | finite s m e pos =>
      by_cases large : 971 < e
      · simp [overflowed, UnpackedFloat.abs, large]
      · simp [overflowed, UnpackedFloat.abs, large]
  | _ => rfl

theorem abs_round (s t : Sign) (m : Nat) (e : Int) :
    (UnpackedFloat.round .binary64 s m e).abs = (UnpackedFloat.round .binary64 t m e).abs := by
  simp only [UnpackedFloat.round, roundWithAccuracy]
  split <;> rfl

/-- An exact result and its negative are rounded to the same magnitude. -/
theorem abs_normalize_neg (m e : Int) (zero : Sign) :
    (UnpackedFloat.normalize .binary64 (-m) e zero).abs =
      (UnpackedFloat.normalize .binary64 m e zero).abs := by
  rcases Int.lt_trichotomy m 0 with negative | rfl | positive
  · have flipped : compare (-m) 0 = .gt := Int.compare_eq_gt.mpr (by omega)
    simp only [UnpackedFloat.normalize, flipped, Int.compare_eq_lt.mpr negative]
    exact abs_round _ _ _ _
  · rfl
  · have flipped : compare (-m) 0 = .lt := Int.compare_eq_lt.mpr (by omega)
    simp only [UnpackedFloat.normalize, flipped, Int.compare_eq_gt.mpr positive, Int.neg_neg]
    exact abs_round _ _ _ _

theorem abs_sub_parts (u v : UnpackedFloat) :
    (u.sub .binary64 v).abs = (v.sub .binary64 u).abs := by
  cases u with
  | notANumber => cases v <;> rfl
  | infinity s =>
      cases v with
      | infinity t => cases s <;> cases t <;> rfl
      | _ => rfl
  | zero s =>
      cases v with
      | zero t => cases s <;> cases t <;> rfl
      | _ => rfl
  | finite s m e mpos =>
      cases v with
      | finite t n f npos =>
          -- The exponents change places in the minimum, and the exact difference changes its sign.
          have swapped (a b : Int) : t.apply b - s.apply a = -(s.apply a - t.apply b) :=
            (Int.neg_sub _ _).symm
          simp only [UnpackedFloat.sub, swapped, Int.min_comm f e]
          exact (abs_normalize_neg _ _ _).symm
      | _ => rfl

/-- The distance of two numbers does not depend on which of them comes first. -/
theorem abs_sub_swap (x y : Float) : (x - y).abs = (y - x).abs := by
  rw [abs_eq, abs_eq, parts_sub, parts_sub, abs_overflowed, abs_overflowed, abs_sub_parts]

/-! ## Equal numbers -/

/-- Equal finite numbers have no distance, and of infinite ones the difference is no number. -/
theorem sub_parts_self (u : UnpackedFloat) :
    u.sub .binary64 u = match u with
      | .notANumber | .infinity _ => .notANumber
      | .zero _ | .finite .. => .zero .positive := by
  cases u with
  | notANumber => rfl
  | infinity s => cases s <;> rfl
  | zero s => cases s <;> rfl
  | finite s m e pos =>
      rw [UnpackedFloat.sub]
      dsimp only
      rw [Int.sub_self]
      rfl

theorem isZero_sub_of_beq {x y : Float} (equal : x == y) (finite : x.isFinite = true) :
    IsZero (x - y) := by
  have vanishes : ∃ s, (parts x).sub .binary64 (parts y) = .zero s := by
    rcases (beq_iff x y).mp equal with ⟨-, rfl⟩ | ⟨⟨s, left⟩, ⟨t, right⟩⟩
    · rw [isFinite_eq] at finite
      rw [sub_parts_self]
      cases shape : parts x with
      | zero s => exact ⟨.positive, rfl⟩
      | finite s m e pos => exact ⟨.positive, rfl⟩
      | _ =>
          rw [shape] at finite
          cases finite
    · rw [left, right]
      cases s <;> cases t <;> exact ⟨_, rfl⟩
  obtain ⟨s, vanishes⟩ := vanishes
  rw [sub_eq, vanishes]
  exact ⟨s, parts_ofParts trivial⟩

theorem isZero_abs {x : Float} (zero : IsZero x) : IsZero x.abs := by
  obtain ⟨s, zero⟩ := zero
  rw [abs_eq, zero]
  exact ⟨_, parts_ofParts trivial⟩

end Semblance.Binary64
