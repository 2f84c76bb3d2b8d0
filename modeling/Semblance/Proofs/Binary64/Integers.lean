import Semblance.Proofs.Binary64.Difference
import Semblance.Proofs.Binary64.Scaling

/-!
# Which integers are zero

An integer may be rounded when it becomes a binary64 number, but none other than zero becomes a
zero, and zero becomes the positive one.
-/

namespace Semblance.Binary64

open Float.Model Float.Model.UnpackedFloat

/-! ## Negation -/

theorem overflowed_neg (u : UnpackedFloat) : overflowed u.neg = (overflowed u).neg := by
  cases u with
  | finite s m e pos =>
      by_cases large : 971 < e
      · simp [overflowed, UnpackedFloat.neg, large]
      · simp [overflowed, UnpackedFloat.neg, large]
  | _ => rfl

theorem parts_neg (x : Float) : parts (-x) = (parts x).neg := by
  change parts (ofParts (parts x).neg) = (parts x).neg
  rw [parts_ofParts (isRounded_neg (isRounded_parts x)), overflowed_neg, overflowed_parts]

theorem neg_neg (x : Float) : -(-x) = x := by
  apply parts_injective
  rw [parts_neg, parts_neg]
  cases parts x with
  | notANumber => rfl
  | infinity s => cases s <;> rfl
  | zero s => cases s <;> rfl
  | finite s m e pos => cases s <;> rfl

theorem isFinite_neg (x : Float) : (-x).isFinite = x.isFinite := by
  rw [isFinite_eq, isFinite_eq, parts_neg]
  cases parts x <;> rfl

theorem isZero_neg {x : Float} (zero : IsZero (-x)) : IsZero x := by
  obtain ⟨s, zero⟩ := zero
  rw [parts_neg] at zero
  cases shape : parts x with
  | zero t => exact ⟨t, shape⟩
  | _ =>
      rw [shape] at zero
      cases zero

/-! ## Integers -/

/-- A rounded positive result is positive, also if it overflows. -/
theorem zero_lt_ofParts {m : Nat} {e : Int} {pos : 0 < m}
    (rounded : IsRounded (.finite .positive m e pos)) :
    0.0 < ofParts (.finite .positive m e pos) := by
  rw [zero_lt_iff, parts_ofParts rounded, overflowed]
  split
  · exact .inl rfl
  · exact .inr ⟨m, e, pos, rfl⟩

theorem zero_lt_ofUInt64 {n : UInt64} (pos : 0 < n.toNat) : 0.0 < n.toFloat := by
  have positive : compare (n.toNat : Int) 0 = .gt := Int.compare_eq_gt.mpr (by omega)
  obtain ⟨m, e, mpos, same, rounded⟩ := round_finite .positive (e := 0) pos (by decide)
  change 0.0 < ofParts (UnpackedFloat.normalize .binary64 (n.toNat : Int) 0 .positive)
  rw [UnpackedFloat.normalize, positive]
  dsimp only
  rw [Int.toNat_natCast, same]
  exact zero_lt_ofParts rounded

theorem zero_lt_ofNat {n : Nat} (pos : 0 < n) : 0.0 < Float.ofNat n := by
  have one : (1.0 : Float).isFinite = true ∧ (1.0 : Float) ≥ 1.0 := by decide +kernel
  change 0.0 < Float.ofScientific n false 0
  rw [Float.ofScientific]
  split
  · rename_i small
    have word : n.toUInt64.toNat = n := by
      rw [Nat.toUInt64_eq, UInt64.toNat_ofNat', Nat.mod_eq_of_lt (by omega)]
    have positive : 0.0 < n.toUInt64.toFloat := zero_lt_ofUInt64 (by omega)
    -- The power of ten that the digits are scaled by is one.
    change 0.0 < n.toUInt64.toFloat * 1.0
    have nonneg : 0.0 ≤ n.toUInt64.toFloat := (zero_le_iff _).mpr (.inr positive)
    exact (zero_lt_mul_iff nonneg one.1 one.2).2.mpr positive
  · change 0.0 < ofParts (UnpackedFloat.ofScientific .binary64 n 0)
    have wide : 2 ^ 52 ≤ n <<< 53 * 10 ^ 0 := by
      rw [Nat.shiftLeft_eq]
      omega
    have bits : 52 ≤ (n <<< 53 * 10 ^ 0).log2 := (Nat.le_log2 (by omega)).mpr wide
    obtain ⟨m, e, mpos, same, rounded⟩ :=
      roundWithAccuracy_finite .positive (m := n <<< 53 * 10 ^ 0) (e := -53 + 0)
        (Nat.le_trans (by decide) wide) (by omega)
    have inRange : ¬ (0 : Int) < -(2 ^ Format.binary64.exponentBits + n.log2) := by
      have wideEnough : (0 : Int) ≤ 2 ^ Format.binary64.exponentBits := by decide
      omega
    have scaled : UnpackedFloat.ofScientific .binary64 n 0 = .finite .positive m e mpos := by
      rw [UnpackedFloat.ofScientific, dif_neg (by omega), if_neg (by decide), if_neg inRange,
        if_pos (by decide)]
      exact same
    rw [scaled]
    exact zero_lt_ofParts rounded

/-- No integer but zero is taken to a zero. -/
theorem eq_zero_of_isZero_ofInt {n : Int} (zero : IsZero (Float.ofInt n)) : n = 0 := by
  cases n with
  | ofNat n =>
      rcases Nat.eq_zero_or_pos n with rfl | pos
      · rfl
      · exact absurd (zero_lt_ofNat pos) (not_zero_lt_of_isZero zero)
  | negSucc n =>
      have positive : 0.0 < Float.ofNat (n + 1) := zero_lt_ofNat (Nat.succ_pos n)
      exact absurd positive (not_zero_lt_of_isZero (isZero_neg zero))

end Semblance.Binary64
