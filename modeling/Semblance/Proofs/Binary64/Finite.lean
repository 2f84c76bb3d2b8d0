import Semblance.Proofs.Binary64.Counts
import Semblance.Proofs.Binary64.Integers

/-!
# Numbers of values are finite

The number next to an integer is the integer, rounded, whatever its size. Integers of 64 bits are far
from the largest number, so what a value holds as its number is finite.
-/

namespace Semblance.Binary64

open Float.Model Float.Model.UnpackedFloat

variable {x : Float} {n : ℕ}

theorem isFinite_zero : (0.0 : Float).isFinite = true := by decide +kernel

theorem isFinite_one : (1.0 : Float).isFinite = true := by decide +kernel

theorem nonneg_one : (0.0 : Float) ≤ 1.0 := by decide +kernel

theorem isFinite_of_hasValue {p : ℚ} (value : HasValue (parts x) p) : x.isFinite = true := by
  rw [isFinite_eq]
  generalize parts x = u at *
  cases value <;> rfl

/-- A count of 54 bits or more is scaled to a mantissa that has them all, and rounded once. -/
theorem holds_ofNat_of_le (large : 2 ^ 53 ≤ n) :
    Holds (parts (Float.ofNat n)) ((n : ℚ) : WithTop ℚ) := by
  have wide : 2 ^ 52 ≤ n <<< 53 * 10 ^ 0 := by
    rw [Nat.shiftLeft_eq]
    omega
  have bits : 52 ≤ (n <<< 53 * 10 ^ 0).log2 := (Nat.le_log2 (by omega)).mpr wide
  obtain ⟨r, t, nearest, rounded⟩ :=
    roundWithAccuracy_nearest .positive (.exact (n <<< 53 * 10 ^ 0)) (e := -53 + 0) (by omega)
  have value : ((n <<< 53 * 10 ^ 0 : ℕ) : ℚ) * 2 ^ (-53 + 0 : ℤ) = n := by
    rw [Nat.shiftLeft_eq, pow_zero, mul_one, add_zero, zpow_neg, Nat.cast_mul, Nat.cast_pow]
    exact mul_inv_cancel_right₀ (by norm_num) _
  have inRange : ¬ (0 : Int) < -(2 ^ Format.binary64.exponentBits + n.log2) := by
    have enough : (0 : Int) ≤ 2 ^ Format.binary64.exponentBits := by decide
    omega
  have scaled : UnpackedFloat.ofScientific .binary64 n 0 = ofNearest .positive r t := by
    rw [UnpackedFloat.ofScientific, dif_neg (by omega), if_neg (by decide), if_neg inRange,
      if_pos (by decide)]
    exact rounded
  have rounds := nearest.roundsTo
  rw [value] at rounds
  change Holds (parts (Float.ofScientific n false 0)) _
  rw [Float.ofScientific, dif_neg (by omega)]
  change Holds (parts (ofParts (UnpackedFloat.ofScientific .binary64 n 0))) _
  rw [scaled, parts_ofParts rounds.1]
  exact .finite rounds

theorem holds_ofNat (n : ℕ) : Holds (parts (Float.ofNat n)) ((n : ℚ) : WithTop ℚ) := by
  rcases Nat.lt_or_ge n (2 ^ 53) with small | large
  · exact (HasSize.finite (hasValue_ofNat small)).holds
  · exact holds_ofNat_of_le large

/-- The number of the first integer that has more than 64 bits. -/
theorem hasValue_wordBound : HasValue (parts 18446744073709551616.0) (2 ^ 64) := by
  have value := HasValue.finite (2 ^ 52) 12 (by decide)
  norm_num at value ⊢
  exact value

theorem isFinite_ofNat (small : n ≤ 2 ^ 64) : (Float.ofNat n).isFinite = true := by
  have holds := holds_ofNat n
  have nonneg : 0.0 ≤ Float.ofNat n :=
    zero_le_of_holds holds (WithTop.coe_le_coe.mpr (Nat.cast_nonneg n))
  have below : Float.ofNat n ≤ 18446744073709551616.0 :=
    le_of_holds holds (HasSize.finite hasValue_wordBound).holds
      (WithTop.coe_le_coe.mpr (by exact_mod_cast small))
  obtain ⟨p, value, -⟩ := hasValue_wordBound.exists_le nonneg below
  exact isFinite_of_hasValue value

theorem isFinite_ofInt {n : Int} (small : n.natAbs ≤ 2 ^ 64) : (Float.ofInt n).isFinite = true := by
  cases n with
  | ofNat n => exact isFinite_ofNat small
  | negSucc n => exact (isFinite_neg (Float.ofNat (n + 1))).trans (isFinite_ofNat small)

theorem isFinite_toFloat (n : Number) : n.toFloat.isFinite = true := by
  cases n with
  | int value lower upper => exact isFinite_ofInt (by omega)
  | float value finite => exact finite

end Semblance.Binary64
