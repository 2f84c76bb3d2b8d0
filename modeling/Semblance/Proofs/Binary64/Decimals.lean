import Semblance.Decimal.Reader
import Semblance.Proofs.Binary64.Conversion
import Semblance.Proofs.Binary64.Finite

/-!
# Decimals as binary64 numbers

A decimal is read as the binary64 number nearest to it. Short ones are the quotient of two numbers
that are held exactly, all others are rounded from the quotient of two integers; with many places
after the point they are zero without a division, which is what they would be rounded to.
-/

namespace Semblance.Binary64

open Float.Model Float.Model.UnpackedFloat

variable {n k : ℕ} {p : ℚ}

/-! ## Powers of ten -/

/-- Parts that hold the given power of ten, as a power of five with zeros behind it. -/
def isPowerOfTen (k : ℕ) : UnpackedFloat → Bool
  | .finite .positive m e _ => e ≤ k && m == 5 ^ k * 2 ^ (k - e).toNat
  | _ => false

theorem hasValue_of_isPowerOfTen {u : UnpackedFloat} (power : isPowerOfTen k u = true) :
    HasValue u (10 ^ k) := by
  unfold isPowerOfTen at power
  split at power
  · rename_i m e pos
    simp only [Bool.and_eq_true, decide_eq_true_eq, beq_iff_eq] at power
    obtain ⟨le, rfl⟩ := power
    have value := HasValue.finite _ e pos
    rw [cast_mul_two_pow_mul (5 ^ k) le, zpow_natCast, Nat.cast_pow, ← mul_pow] at value
    norm_num at value
    exact value
  · cases power

theorem isPowerOfTen_table (k : Fin 23) :
    isPowerOfTen k (parts Float.exactlyRepresentablePowersOfTen[k]) = true := by
  revert k
  decide +kernel

/-! ## Places after the point -/

theorem isNearest_zero (nonneg : 0 ≤ p) (small : p < 2 ^ (-1075 : ℤ)) : IsNearest p 0 (-1074) := by
  have unit := two_zpow_pos (-1074)
  have half : p / 2 ^ (-1074 : ℤ) < 1 / 2 := by
    rw [div_lt_iff₀ unit]
    calc p < 2 ^ (-1075 : ℤ) := small
      _ = 1 / 2 * 2 ^ (-1074 : ℤ) := by
          rw [show (-1075 : ℤ) = -1074 - 1 by norm_num, zpow_sub_one₀ two_ne_zero]
          ring
  have distance : |p / 2 ^ (-1074 : ℤ) - (0 : ℕ)| < 1 / 2 := by
    rw [Nat.cast_zero, sub_zero, abs_of_nonneg (div_nonneg nonneg unit.le)]
    exact half
  refine ⟨le_rfl, ?_, .inr rfl, distance.le, fun tie => absurd tie distance.ne⟩
  rw [div_lt_iff₀ unit] at half
  linarith

/-- Many places take any digits below a small number. -/
theorem div_ten_pow_lt {b : ℕ} (places : b + n.log2 < k) :
    (n / 10 ^ k : ℚ) < 2 ^ (-b : ℤ) := by
  have digits : (n : ℚ) < 2 ^ (n.log2 + 1) := by exact_mod_cast Nat.lt_log2_self
  rw [div_lt_iff₀ (by positivity), zpow_neg, zpow_natCast, ← div_eq_inv_mul,
    lt_div_iff₀ (by positivity)]
  calc (n : ℚ) * 2 ^ b < 2 ^ (n.log2 + 1) * 2 ^ b := by gcongr
    _ = 2 ^ (n.log2 + 1 + b) := (pow_add _ _ _).symm
    _ ≤ 2 ^ k := pow_le_pow_right₀ one_le_two (by omega)
    _ ≤ 10 ^ k := pow_le_pow_left₀ (by norm_num) (by norm_num) k

theorem roundsTo_ofScientific (n : ℕ) {k : ℕ} (pos : 0 < k) :
    RoundsTo (n / 10 ^ k) (UnpackedFloat.ofScientific .binary64 n (-k)) := by
  rw [UnpackedFloat.ofScientific]
  have wide : (2 : ℤ) ^ Format.binary64.exponentBits = 2 ^ 11 := rfl
  split
  · rename_i zero
    rw [zero, Nat.cast_zero, zero_div]
    exact (HasValue.zero .positive).roundsTo trivial
  · rename_i nonzero
    rw [if_neg (by omega)]
    split
    · have small : (n / 10 ^ k : ℚ) < 2 ^ (-(1075 : ℕ) : ℤ) := div_ten_pow_lt (by omega)
      have nearest := isNearest_zero (by positivity) small
      exact ⟨trivial, 0, -1074, nearest, by simpa using HasValue.zero .positive⟩
    · rw [if_neg (by omega)]
      have numerator := HasValue.finite n 0 (Nat.pos_of_ne_zero nonzero)
      have denominator := HasValue.finite (10 ^ k) 0 (by positivity)
      rw [zpow_zero, mul_one] at numerator denominator
      have quotient := numerator.div denominator (by positivity)
      rw [Nat.cast_pow] at quotient
      simpa using quotient

/-- Digits of which some stand after the point. -/
theorem holds_ofScientific (n : ℕ) {k : ℕ} (pos : 0 < k) :
    Holds (parts (Float.ofScientific n true k)) ((n / 10 ^ k : ℚ) : WithTop ℚ) := by
  rw [Float.ofScientific]
  split
  · rename_i short
    obtain ⟨small, few⟩ := short
    have power := hasValue_of_isPowerOfTen (isPowerOfTen_table ⟨k, by omega⟩)
    exact holds_div (hasValue_toUInt64 small) power (by positivity)
  · have rounds := roundsTo_ofScientific n pos
    have exponent : Int.negOfNat k = -k := Int.negOfNat_eq
    change Holds (parts (ofParts (UnpackedFloat.ofScientific .binary64 n (Int.negOfNat k)))) _
    rw [exponent, parts_ofParts rounds.1]
    exact .finite rounds

/-- Digits and the number of them that stand after the point. -/
theorem holds_nearestFloat (n k : ℕ) :
    Holds (parts (Decimal.nearestFloat n (-k))) ((n / 10 ^ k : ℚ) : WithTop ℚ) := by
  rw [Decimal.nearestFloat, Int.natAbs_neg, Int.natAbs_natCast]
  rcases Nat.eq_zero_or_pos k with rfl | pos
  · have whole : Holds (parts (Float.ofScientific n false 0)) ((n : ℚ) : WithTop ℚ) := holds_ofNat n
    simpa using whole
  · have after : decide (-(k : ℤ) < 0) = true := decide_eq_true (by omega)
    rw [after]
    exact holds_ofScientific n pos

/-! ## Decimals are numbers -/

theorem Holds.isNaN_eq {u : UnpackedFloat} {size : WithTop ℚ} (holds : Holds u size) :
    u.isNaN = false := by
  cases holds with
  | infinite => rfl
  | finite rounds =>
      obtain ⟨-, r, t, -, value⟩ := rounds
      generalize (r : ℚ) * 2 ^ t = rounded at value
      cases value with
      | zero s => rfl
      | finite m e pos =>
          rw [overflowed]
          split <;> rfl

/-- Whatever the digits and the exponent are, what is read is a number, perhaps an infinite one. -/
theorem isNaN_nearestFloat (n : ℕ) (e : ℤ) : (Decimal.nearestFloat n e).isNaN = false := by
  change (Float.ofScientific n (decide (e < 0)) e.natAbs).isNaN = false
  generalize decide (e < 0) = negative
  generalize e.natAbs = k
  rw [Float.ofScientific]
  split
  · rename_i short
    obtain ⟨small, few⟩ := short
    have digits := hasValue_toUInt64 small
    have power := hasValue_of_isPowerOfTen (isPowerOfTen_table ⟨k, by omega⟩)
    dsimp only
    split
    · exact (holds_div digits power (by positivity)).isNaN_eq
    · exact (holds_mul (.finite digits) power (by positivity)).isNaN_eq
  · change (ofParts (UnpackedFloat.ofScientific .binary64 n _)).isNaN = false
    rw [isNaN_ofParts, isNaN_ofScientific]

theorem isNaN_of_readUnsigned {cs : List Char} {x : Float}
    (read : Decimal.readUnsigned cs = some x) : x.isNaN = false := by
  simp only [Decimal.readUnsigned] at read
  -- With a point and without one
  split at read <;> split at read
  · cases read
  · obtain ⟨exponent, -, rfl⟩ := Option.map_eq_some_iff.mp read
    exact isNaN_nearestFloat _ _
  · cases read
  · obtain ⟨exponent, -, rfl⟩ := Option.map_eq_some_iff.mp read
    exact isNaN_nearestFloat _ _

end Semblance.Binary64
