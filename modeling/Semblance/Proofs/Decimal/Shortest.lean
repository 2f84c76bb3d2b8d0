import Semblance.Proofs.Binary64.Decimals

/-!
# The shortest decimal is rounded back

The decimals that are rounded to a given positive number form an interval around it. The decimal
that is searched for lies in that interval, whichever grid it is found on, so reading it gives the
number again.
-/

namespace Semblance.Decimal

open Binary64 Float.Model Float.Model.UnpackedFloat

/-- The number that a decimal stands for. -/
def value (d : Decimal) : ℚ := d.coefficient * 10 ^ d.exponent

theorem zpow_toNat {b : ℚ} (nonzero : b ≠ 0) (k : ℤ) :
    b ^ (-k).toNat * b ^ k = b ^ k.toNat := by
  rw [← zpow_natCast, ← zpow_natCast, ← zpow_add₀ nonzero]
  congr 1
  omega

namespace Interval

/-- The number lies in the interval. -/
def Contains (i : Interval) (p : ℚ) : Prop :=
  if i.closed then i.lower * 2 ^ i.unitExponent ≤ p ∧ p ≤ i.upper * 2 ^ i.unitExponent
  else i.lower * 2 ^ i.unitExponent < p ∧ p < i.upper * 2 ^ i.unitExponent

/-! ## Points on grids -/

variable {i : Interval} {g : ℤ}

theorem ratio_pos : 0 < (i.ratio g).2 := by
  simp only [ratio, Nat.shiftLeft_eq]
  exact Nat.mul_pos (Nat.pow_pos (by decide)) (Nat.two_pow_pos _)

theorem ratio_eq : ((i.ratio g).1 : ℚ) * 10 ^ g = 2 ^ i.unitExponent * (i.ratio g).2 := by
  have ten := zpow_toNat (show (10 : ℚ) ≠ 0 by norm_num) g
  have two := zpow_toNat (show (2 : ℚ) ≠ 0 by norm_num) i.unitExponent
  simp only [ratio, Nat.shiftLeft_eq, Nat.pow_eq]
  push_cast
  rw [← ten, ← two]
  ring

theorem mul_unit_mul (n : ℕ) :
    (n : ℚ) * 2 ^ i.unitExponent * (i.ratio g).2 = n * (i.ratio g).1 * 10 ^ g := by
  rw [mul_assoc, ← ratio_eq, mul_assoc]

/-- Comparing a multiple of the unit with a point on the grid. -/
theorem mul_ratio_lt_iff (n point : ℕ) : n * (i.ratio g).1 < point * (i.ratio g).2 ↔
    (n : ℚ) * 2 ^ i.unitExponent < point * 10 ^ g := by
  have grid : (0 : ℚ) < 10 ^ g := by positivity
  have divisor : (0 : ℚ) < (i.ratio g).2 := by exact_mod_cast ratio_pos
  rw [← mul_lt_mul_iff_left₀ divisor, mul_unit_mul, mul_right_comm (point : ℚ),
    mul_lt_mul_iff_left₀ grid]
  norm_cast

theorem ratio_mul_lt_iff (n point : ℕ) : point * (i.ratio g).2 < n * (i.ratio g).1 ↔
    (point : ℚ) * 10 ^ g < n * 2 ^ i.unitExponent := by
  have grid : (0 : ℚ) < 10 ^ g := by positivity
  have divisor : (0 : ℚ) < (i.ratio g).2 := by exact_mod_cast ratio_pos
  rw [← mul_lt_mul_iff_left₀ divisor, mul_unit_mul, mul_right_comm (point : ℚ),
    mul_lt_mul_iff_left₀ grid]
  norm_cast

theorem contains_of_pointOnGrid {tie : Tie} {d : Decimal}
    (found : i.pointOnGrid tie g = some d) : i.Contains d.value := by
  simp only [pointOnGrid, Option.map_eq_some_iff] at found
  obtain ⟨point, first, rfl⟩ := found
  have inside := List.find?_some first
  rw [Bool.and_eq_true] at inside
  have inside := inside.2
  unfold Contains Decimal.value
  split at inside
  · rename_i closed
    simp only [Bool.and_eq_true, decide_eq_true_eq, ← not_lt, mul_ratio_lt_iff,
      ratio_mul_lt_iff] at inside
    simpa only [closed, if_true, not_lt] using inside
  · rename_i closed
    simp only [Bool.and_eq_true, decide_eq_true_eq, mul_ratio_lt_iff, ratio_mul_lt_iff] at inside
    rwa [if_neg closed]

/-! ## Numbers that are rounded alike -/

variable {m : ℕ} {e : ℤ} {p : ℚ}

/-- Half the distance to the number before, in units of the last bit. -/
def gapBelow (m : ℕ) (e : ℤ) : ℚ := if m = 2 ^ 52 ∧ -1074 < e then 1 / 4 else 1 / 2

theorem gapBelow_le (m : ℕ) (e : ℤ) : gapBelow m e ≤ 1 / 2 := by
  unfold gapBelow
  split <;> norm_num

theorem lower_eq (pos : 0 < m) :
    ((ofBinary64 m e).lower : ℚ) * 2 ^ (ofBinary64 m e).unitExponent =
      (m - gapBelow m e) * 2 ^ e := by
  have nat : (ofBinary64 m e).lower + (if m = 2 ^ 52 ∧ -1074 < e then 1 else 2) = 4 * m := by
    simp only [ofBinary64]
    split <;> split <;> omega
  have cast := congrArg (Nat.cast (R := ℚ)) nat
  push_cast at cast
  have lower : ((ofBinary64 m e).lower : ℚ) = 4 * (m - gapBelow m e) := by
    unfold gapBelow
    split at cast <;> split <;> first | contradiction | linarith
  rw [lower, ofBinary64, zpow_sub₀ two_ne_zero]
  ring

theorem upper_eq : ((ofBinary64 m e).upper : ℚ) * 2 ^ (ofBinary64 m e).unitExponent =
    (m + 1 / 2) * 2 ^ e := by
  simp only [ofBinary64]
  rw [zpow_sub₀ two_ne_zero]
  push_cast
  ring

/-- The interval in units of the last bit. The ends belong to it only if the mantissa is even. -/
theorem Contains.bounds (pos : 0 < m) (inside : (ofBinary64 m e).Contains p) :
    m - gapBelow m e ≤ p / 2 ^ e ∧ p / 2 ^ e ≤ m + 1 / 2 ∧
      (¬ Even m → m - gapBelow m e < p / 2 ^ e ∧ p / 2 ^ e < m + 1 / 2) := by
  have unit := two_zpow_pos e
  have closed : (ofBinary64 m e).closed = true ↔ Even m := by
    simp [ofBinary64, Nat.even_iff]
  rw [le_div_iff₀ unit, div_le_iff₀ unit, lt_div_iff₀ unit, div_lt_iff₀ unit, ← lower_eq pos,
    ← upper_eq]
  unfold Contains at inside
  by_cases even : Even m
  · rw [if_pos (closed.mpr even)] at inside
    exact ⟨inside.1, inside.2, fun odd => absurd even odd⟩
  · rw [if_neg (closed.not.mpr even)] at inside
    exact ⟨inside.1.le, inside.2.le, fun _ => inside⟩

/-- On the grid of the mantissa, all numbers in the interval are nearest to it. -/
theorem Contains.isNearest {s : Sign} {pos : 0 < m} (rounded : IsRounded (.finite s m e pos))
    (inside : (ofBinary64 m e).Contains p) (onGrid : 2 ^ 52 ≤ p / 2 ^ e ∨ e = -1074) :
    IsNearest p m e := by
  obtain ⟨short, low, -⟩ := rounded
  obtain ⟨lower, upper, strict⟩ := inside.bounds pos
  have unit := two_zpow_pos e
  have bits : (m : ℚ) + 1 ≤ 2 ^ 53 := by exact_mod_cast short
  have gap := gapBelow_le m e
  refine ⟨low, ?_, ?_, ?_, ?_⟩
  · rw [← div_lt_iff₀ unit]
    linarith
  · rwa [← le_div_iff₀ unit]
  · rw [abs_le]
    constructor <;> linarith
  · -- An odd mantissa is not half a unit away, as the ends are left out.
    intro tie
    by_contra odd
    obtain ⟨above, below⟩ := strict odd
    have inner : |p / 2 ^ e - m| < 1 / 2 := by
      rw [abs_lt]
      constructor <;> linarith
    exact inner.ne tie

/-- Below a power of two there is a finer grid, on which the interval ends half as far away. -/
theorem Contains.isNearest_finer (inside : (ofBinary64 (2 ^ 52) e).Contains p)
    (low : -1074 < e) (below : p / 2 ^ e < 2 ^ 52) : IsNearest p (2 ^ 53) (e - 1) := by
  obtain ⟨lower, -, -⟩ := inside.bounds (by norm_num)
  have quarter : gapBelow (2 ^ 52) e = 1 / 4 := if_pos ⟨rfl, low⟩
  rw [quarter] at lower
  push_cast at lower
  have step := two_zpow_pos (e - 1)
  have finer : p / 2 ^ (e - 1) = 2 * (p / 2 ^ e) := by
    rw [zpow_sub_one₀ two_ne_zero]
    field_simp
  refine ⟨by omega, ?_, .inl ?_, ?_, fun _ => ⟨2 ^ 52, by norm_num⟩⟩
  · rw [← div_lt_iff₀ step, finer]
    linarith
  · rw [← le_div_iff₀ step, finer]
    linarith
  · rw [finer, abs_le]
    push_cast
    constructor <;> linarith

/-- All numbers in the interval around a number are rounded to it. -/
theorem Contains.exists_isNearest {s : Sign} {pos : 0 < m}
    (rounded : IsRounded (.finite s m e pos)) (inside : (ofBinary64 m e).Contains p) :
    ∃ r t, IsNearest p r t ∧ (r : ℚ) * 2 ^ t = m * 2 ^ e := by
  by_cases onGrid : 2 ^ 52 ≤ p / 2 ^ e ∨ e = -1074
  · exact ⟨m, e, inside.isNearest rounded onGrid, rfl⟩
  · obtain ⟨below, notLeast⟩ := not_or.mp onGrid
    rw [not_le] at below
    obtain ⟨-, low, full⟩ := rounded
    -- Only the interval of a power of two reaches down to another grid.
    have normal : 2 ^ 52 ≤ m := full.resolve_right notLeast
    have top : m = 2 ^ 52 := by
      have lower := (inside.bounds pos).1
      have gap := gapBelow_le m e
      have small : (m : ℚ) < 2 ^ 52 + 1 := by linarith
      have small : m < 2 ^ 52 + 1 := by exact_mod_cast small
      omega
    subst top
    refine ⟨2 ^ 53, e - 1, inside.isNearest_finer (by omega) below, ?_⟩
    rw [zpow_sub_one₀ two_ne_zero]
    push_cast
    ring

theorem contains_self (pos : 0 < m) (e : ℤ) : (ofBinary64 m e).Contains (m * 2 ^ e) := by
  have unit := two_zpow_pos e
  have gap : 0 < gapBelow m e := by
    unfold gapBelow
    split <;> norm_num
  have below : ((ofBinary64 m e).lower : ℚ) * 2 ^ (ofBinary64 m e).unitExponent < m * 2 ^ e := by
    rw [lower_eq pos]
    gcongr
    linarith
  have above : (m * 2 ^ e : ℚ) < (ofBinary64 m e).upper * 2 ^ (ofBinary64 m e).unitExponent := by
    rw [upper_eq]
    gcongr
    linarith
  unfold Contains
  split
  · exact ⟨below.le, above.le⟩
  · exact ⟨below, above⟩

end Interval

/-! ## The search -/

variable {m : ℕ} {e : ℤ}

/-- Without a point on any grid there would still be the number itself. -/
theorem value_exact (m : ℕ) (e : ℤ) :
    value ⟨m <<< e.toNat * Nat.pow 5 (-e).toNat, min e 0⟩ = m * 2 ^ e := by
  simp only [value, Nat.shiftLeft_eq, Nat.pow_eq]
  push_cast
  rcases le_total 0 e with whole | fraction
  · obtain ⟨n, rfl⟩ := Int.eq_ofNat_of_zero_le whole
    rw [min_eq_right whole, Int.toNat_neg_natCast, Int.toNat_natCast, zpow_natCast]
    simp
  · obtain ⟨n, same⟩ := Int.eq_ofNat_of_zero_le (Int.neg_nonneg.mpr fraction)
    obtain rfl : e = -n := by omega
    have ten : (10 : ℚ) ^ n = 5 ^ n * 2 ^ n := by
      rw [← mul_pow]
      norm_num
    rw [min_eq_left fraction, same, Int.toNat_natCast, Int.toNat_neg_natCast, zpow_neg,
      zpow_neg, zpow_natCast, zpow_natCast, ten]
    field_simp

theorem contains_shortest (tie : Tie) (pos : 0 < m) (e : ℤ) :
    (Interval.ofBinary64 m e).Contains (shortest tie m e).value := by
  unfold shortest
  dsimp only
  generalize search : List.findSome? _ _ = found
  cases found with
  | none =>
      rw [Option.getD_none, value_exact]
      exact Interval.contains_self pos e
  | some d =>
      obtain ⟨step, -, onGrid⟩ := List.exists_of_findSome?_eq_some search
      exact Interval.contains_of_pointOnGrid onGrid

/-- Whatever holds the shortest decimal, rounded, holds the number itself. -/
theorem holds_of_holds_shortest {s : Sign} {pos : 0 < m} (tie : Tie)
    (rounded : IsRounded (.finite s m e pos)) {u : UnpackedFloat}
    (holds : Holds u ((shortest tie m e).value : WithTop ℚ)) :
    Holds u ((m * 2 ^ e : ℚ) : WithTop ℚ) := by
  obtain ⟨r, t, nearest, same⟩ :=
    (contains_shortest tie pos e).exists_isNearest rounded
  generalize sum : ((shortest tie m e).value : WithTop ℚ) = size at holds
  -- Both what is held and the number are nearest to one decimal, so they are the same.
  cases holds with
  | infinite => exact absurd sum (WithTop.coe_ne_top)
  | @finite v q rounds =>
      obtain ⟨fits, k, w, other, value⟩ := rounds
      have agree : q = (shortest tie m e).value := WithTop.coe_injective sum.symm
      rw [agree] at other
      have equal : (k : ℚ) * 2 ^ w = m * 2 ^ e := by
        rw [← same]
        exact le_antisymm (other.mono nearest le_rfl) (nearest.mono other le_rfl)
      rw [equal] at value
      exact .finite (value.roundsTo fits)

end Semblance.Decimal
