import Semblance.Proofs.Binary64.Parts

/-!
# Rounding to binary64

An exact result is rounded to the nearest multiple of a power of two, and where two are equally
near, to the even one. The power is the least one that leaves 53 bits, but no less than `2 ^ -1074`.
So the order of exact results is kept, and a result that is no smaller than the least positive
number is not rounded to zero.
-/

namespace Semblance.Binary64

open Float.Model Float.Model.UnpackedFloat

/-! ## Powers of two -/

theorem two_zpow_pos (t : ℤ) : (0 : ℚ) < 2 ^ t := zpow_pos two_pos t

/-- No mantissa of 53 bits reaches the full ones of a coarser grid. -/
theorem carry_le {t u : ℤ} (finer : t < u) : (2 : ℚ) ^ 53 * 2 ^ t ≤ 2 ^ 52 * 2 ^ u := by
  calc (2 : ℚ) ^ 53 * 2 ^ t = 2 ^ 52 * 2 ^ (t + 1) := by rw [zpow_add_one₀ two_ne_zero]; ring
    _ ≤ 2 ^ 52 * 2 ^ u :=
        mul_le_mul_of_nonneg_left (zpow_le_zpow_right₀ one_le_two finer) (by norm_num)

/-! ## Nearest multiples -/

/-- The multiple `r * 2 ^ t` is what `x` is rounded to, before a carry and before overflow. -/
structure IsNearest (x : ℚ) (r : ℕ) (t : ℤ) : Prop where
  low : -1074 ≤ t
  short : x < 2 ^ 53 * 2 ^ t
  full : 2 ^ 52 * 2 ^ t ≤ x ∨ t = -1074
  near : |x / 2 ^ t - r| ≤ 1 / 2
  even : |x / 2 ^ t - r| = 1 / 2 → Even r

namespace IsNearest

variable {x y : ℚ} {r q : ℕ} {t u : ℤ}

/-- A carry gives one bit more than the mantissa has. -/
theorem le_carry (nearest : IsNearest x r t) : r ≤ 2 ^ 53 := by
  have short := nearest.short
  have near := (abs_le.mp nearest.near).1
  rw [← div_lt_iff₀ (two_zpow_pos t)] at short
  have below : (r : ℚ) < 2 ^ 53 + 1 := by linarith
  have below : r < 2 ^ 53 + 1 := by exact_mod_cast below
  omega

theorem ge_of_full (nearest : IsNearest x r t) (normal : t ≠ -1074) : 2 ^ 52 ≤ r := by
  have full := nearest.full.resolve_right normal
  have near := (abs_le.mp nearest.near).2
  rw [← le_div_iff₀ (two_zpow_pos t)] at full
  have above : (2 : ℚ) ^ 52 < r + 1 := by linarith
  have above : 2 ^ 52 < r + 1 := by exact_mod_cast above
  omega

/-- On one grid, nearer neighbours and ties keep the order. -/
theorem le_of_le_same (first : IsNearest x r t) (second : IsNearest y q t) (le : x ≤ y) :
    r ≤ q := by
  by_contra less
  have gap : (q : ℚ) + 1 ≤ r := by exact_mod_cast Nat.lt_of_not_le less
  have scaled : x / 2 ^ t ≤ y / 2 ^ t := div_le_div_of_nonneg_right le (two_zpow_pos t).le
  have left := abs_le.mp first.near
  have right := abs_le.mp second.near
  -- Both results lie halfway between two neighbours, which are both even.
  have next : (r : ℚ) = q + 1 := by linarith
  have firstTie : |x / 2 ^ t - r| = 1 / 2 := by
    rw [abs_eq (by norm_num)]
    right
    linarith
  have secondTie : |y / 2 ^ t - q| = 1 / 2 := by
    rw [abs_eq (by norm_num)]
    left
    linarith
  have next : r = q + 1 := by exact_mod_cast next
  have odd := first.even firstTie
  rw [next, Nat.even_add_one] at odd
  exact odd (second.even secondTie)

/-- Rounding keeps the order, also across grids. -/
theorem mono (first : IsNearest x r t) (second : IsNearest y q u) (le : x ≤ y) :
    (r : ℚ) * 2 ^ t ≤ q * 2 ^ u := by
  rcases lt_trichotomy t u with finer | rfl | coarser
  · -- All multiples on the finer grid lie below the full mantissas of the coarser one.
    have small : (r : ℚ) ≤ 2 ^ 53 := by exact_mod_cast first.le_carry
    have large : (2 : ℚ) ^ 52 ≤ q := by
      have := first.low
      exact_mod_cast second.ge_of_full (by omega)
    calc (r : ℚ) * 2 ^ t ≤ 2 ^ 53 * 2 ^ t := by gcongr
      _ ≤ 2 ^ 52 * 2 ^ u := carry_le finer
      _ ≤ q * 2 ^ u := by gcongr
  · have ordered : (r : ℚ) ≤ q := by exact_mod_cast first.le_of_le_same second le
    gcongr
  · have full := first.full.resolve_right (by have := second.low; omega)
    have impossible : y < y := by
      calc y < 2 ^ 53 * 2 ^ u := second.short
        _ ≤ 2 ^ 52 * 2 ^ t := carry_le coarser
        _ ≤ x := full
        _ ≤ y := le
    exact absurd impossible (lt_irrefl y)

end IsNearest

/-! ## Round and sticky bits -/

theorem mantissa_ofMantissaAndAccuracy (m : ℕ) (accuracy : Accuracy) :
    (ExtendedMantissa.ofMantissaAndAccuracy m accuracy).mantissa = m := by
  rcases accuracy with _ | ⟨_ | _ | _⟩ <;> rfl

/-- The bits that a remainder sets. -/
theorem bits_of_fraction (q k : ℕ) {d : ℕ} (pos : 0 < d) :
    ((ExtendedMantissa.ofMantissaAndAccuracy q (accuracyOfFraction k d)).roundBit = true ↔
      d ≤ 2 * k) ∧
      ((ExtendedMantissa.ofMantissaAndAccuracy q (accuracyOfFraction k d)).stickyBit = true ↔
        k ≠ 0 ∧ 2 * k ≠ d) := by
  unfold accuracyOfFraction
  by_cases whole : k = 0
  · rw [if_pos whole]
    exact ⟨iff_of_false Bool.false_ne_true (by omega), iff_of_false Bool.false_ne_true (by omega)⟩
  · rw [if_neg whole]
    rcases Nat.lt_trichotomy (2 * k) d with less | half | more
    · rw [Nat.compare_eq_lt.mpr less]
      exact ⟨iff_of_false Bool.false_ne_true (by omega), iff_of_true rfl (by omega)⟩
    · rw [Nat.compare_eq_eq.mpr half]
      exact ⟨iff_of_true rfl (by omega), iff_of_false Bool.false_ne_true (by omega)⟩
    · rw [Nat.compare_eq_gt.mpr more]
      exact ⟨iff_of_true rfl (by omega), iff_of_true rfl (by omega)⟩

/-- A mantissa stands for a number of which it is the whole part. Of the fraction, the round bit
tells whether it reaches a half, and the sticky bit whether it is anything but nothing or a half. -/
structure StandsFor (em : ExtendedMantissa) (y : ℚ) : Prop where
  lower : em.mantissa ≤ y
  upper : y < em.mantissa + 1
  half : em.roundBit = true ↔ em.mantissa + 1 / 2 ≤ y
  rest : em.stickyBit = true ↔ y ≠ em.mantissa ∧ y ≠ em.mantissa + 1 / 2

namespace StandsFor

variable {em : ExtendedMantissa} {y : ℚ}

theorem exact (m : ℕ) : StandsFor (.ofMantissaAndAccuracy m .exact) m where
  lower := le_rfl
  upper := lt_add_one (m : ℚ)
  half := by simp [ExtendedMantissa.ofMantissaAndAccuracy]
  rest := by simp [ExtendedMantissa.ofMantissaAndAccuracy]

/-- Some bit is set when something follows the whole part. -/
theorem some_bit_iff (stands : StandsFor em y) :
    (em.roundBit || em.stickyBit) = true ↔ y ≠ em.mantissa := by
  rw [Bool.or_eq_true, stands.half, stands.rest]
  constructor
  · rintro (half | ⟨inexact, -⟩)
    · intro whole
      linarith
    · exact inexact
  · intro inexact
    by_cases half : y = em.mantissa + 1 / 2
    · exact .inl half.ge
    · exact .inr ⟨inexact, half⟩

/-- Half of a number: the last bit of the mantissa becomes the round bit, and the two bits behind it
the sticky bit. -/
theorem shiftRightOne (stands : StandsFor em y) : StandsFor em.shiftRightOne (y / 2) := by
  have lower := stands.lower
  have upper := stands.upper
  have more := stands.some_bit_iff
  obtain ⟨m, half, rest⟩ := em
  obtain ⟨n, rfl | rfl⟩ := Nat.even_or_odd' m
  · have quotient : 2 * n / 2 = n := by omega
    have bit : (2 * n % 2 != 0) = false := by simp
    push_cast at lower upper more
    refine ⟨?_, ?_, ?_, ?_⟩ <;> dsimp only [ExtendedMantissa.shiftRightOne] <;> rw [quotient]
    · linarith
    · linarith
    · rw [bit]
      refine iff_of_false Bool.false_ne_true ?_
      linarith
    · rw [more]
      constructor
      · intro inexact
        refine ⟨fun whole => inexact ?_, fun middle => ?_⟩ <;> linarith
      · rintro ⟨inexact, -⟩ whole
        exact inexact (by linarith)
  · have quotient : (2 * n + 1) / 2 = n := by omega
    have bit : ((2 * n + 1) % 2 != 0) = true := by simp
    push_cast at lower upper more
    refine ⟨?_, ?_, ?_, ?_⟩ <;> dsimp only [ExtendedMantissa.shiftRightOne] <;> rw [quotient]
    · linarith
    · linarith
    · rw [bit]
      refine iff_of_true rfl ?_
      linarith
    · rw [more]
      constructor
      · intro inexact
        refine ⟨fun whole => ?_, fun middle => inexact ?_⟩ <;> linarith
      · rintro ⟨-, inexact⟩ whole
        exact inexact (by linarith)

theorem shiftRight (stands : StandsFor em y) (n : ℕ) : StandsFor (em >>> n) (y / 2 ^ n) := by
  change StandsFor (n.repeat ExtendedMantissa.shiftRightOne em) (y / 2 ^ n)
  induction n with
  | zero =>
      rw [pow_zero, div_one]
      exact stands
  | succ n ih =>
      rw [pow_succ, ← div_div]
      exact ih.shiftRightOne

/-- The rounded mantissa is the nearest whole number, and of two the even one. -/
theorem roundedMantissa (stands : StandsFor em y) :
    |y - em.roundedMantissa| ≤ 1 / 2 ∧
      (|y - em.roundedMantissa| = 1 / 2 → Even em.roundedMantissa) := by
  have lower := stands.lower
  have upper := stands.upper
  have halfIff := stands.half
  have restIff := stands.rest
  obtain ⟨m, half, rest⟩ := em
  dsimp only at lower upper halfIff restIff
  cases half with
  | false =>
      -- The whole part itself: less than a half follows it.
      have low : y < m + 1 / 2 := not_le.mp fun reached => Bool.false_ne_true (halfIff.mpr reached)
      have rounded : ExtendedMantissa.roundedMantissa ⟨m, false, rest⟩ = m := by cases rest <;> rfl
      have distance : |y - m| < 1 / 2 := by
        rw [abs_lt]
        constructor <;> linarith
      rw [rounded]
      exact ⟨distance.le, fun tie => absurd tie distance.ne⟩
  | true =>
      have high : m + 1 / 2 ≤ y := halfIff.mp rfl
      cases rest with
      | true =>
          -- The next whole number: more than a half follows the whole part.
          have above : m + 1 / 2 < y := lt_of_le_of_ne high (restIff.mp rfl).2.symm
          have distance : |y - (m + 1 : ℕ)| < 1 / 2 := by
            rw [abs_lt]
            push_cast
            constructor <;> linarith
          exact ⟨distance.le, fun tie => absurd tie distance.ne⟩
      | false =>
          -- A tie
          have middle : y = m + 1 / 2 := by
            by_contra other
            exact Bool.false_ne_true (restIff.mpr ⟨by linarith, other⟩)
          change |y - (m + m % 2 : ℕ)| ≤ 1 / 2 ∧ (_ → Even (m + m % 2))
          rw [middle, abs_le]
          obtain ⟨n, rfl | rfl⟩ := Nat.even_or_odd' m
          · rw [Nat.mul_mod_right, Nat.add_zero]
            refine ⟨?_, fun _ => even_two_mul n⟩
            constructor <;> linarith
          · rw [show 2 * n + 1 + (2 * n + 1) % 2 = 2 * (n + 1) by omega]
            refine ⟨?_, fun _ => even_two_mul (n + 1)⟩
            push_cast
            constructor <;> linarith

end StandsFor

/-- A quotient with what its remainder tells of the fraction. -/
theorem standsFor_quotient (n : ℕ) {d : ℕ} (pos : 0 < d) :
    StandsFor (.ofMantissaAndAccuracy (n / d) (accuracyOfFraction (n % d) d)) (n / d : ℚ) := by
  have unit : (0 : ℚ) < d := by exact_mod_cast pos
  have split : (n : ℚ) = d * (n / d : ℕ) + (n % d : ℕ) := by
    exact_mod_cast (Nat.div_add_mod n d).symm
  have small : n % d < d := Nat.mod_lt n pos
  generalize n / d = q at *
  generalize n % d = k at *
  have fraction : (n / d : ℚ) = q + k / d := by
    rw [split]
    field_simp
  have nonneg : (0 : ℚ) ≤ k / d := by positivity
  have below : (k / d : ℚ) < 1 := by
    rw [div_lt_one unit]
    exact_mod_cast small
  have whole_iff : (k / d : ℚ) = 0 ↔ k = 0 := by
    rw [div_eq_zero_iff]
    norm_cast
    omega
  have half_le_iff : (1 / 2 : ℚ) ≤ k / d ↔ d ≤ 2 * k := by
    rw [div_le_div_iff₀ two_pos unit]
    norm_cast
    omega
  have half_iff : (k / d : ℚ) = 1 / 2 ↔ 2 * k = d := by
    rw [div_eq_div_iff unit.ne' two_ne_zero]
    norm_cast
    omega
  obtain ⟨half, rest⟩ := bits_of_fraction q k pos
  rw [fraction]
  refine ⟨?_, ?_, ?_, ?_⟩ <;> rw [mantissa_ofMantissaAndAccuracy]
  · exact le_add_of_nonneg_right nonneg
  · exact add_lt_add_right below q
  · rw [half, add_le_add_iff_left, half_le_iff]
  · rw [rest, add_ne_left, (add_right_injective (q : ℚ)).ne_iff]
    exact and_congr whole_iff.not.symm half_iff.not.symm

/-! ## Rounding -/

theorem mantissa_shiftRight (em : ExtendedMantissa) (n : Nat) :
    (em >>> n).mantissa = em.mantissa / 2 ^ n := by
  change (n.repeat ExtendedMantissa.shiftRightOne em).mantissa = em.mantissa / 2 ^ n
  induction n with
  | zero => rw [Nat.repeat, Nat.pow_zero, Nat.div_one]
  | succ n ih =>
      rw [Nat.repeat, ExtendedMantissa.shiftRightOne]
      dsimp only
      rw [ih, Nat.div_div_eq_div_mul, ← Nat.pow_succ]

theorem targetExponent_eq (m : Nat) (e : Int) :
    Format.binary64.targetExponent (totalExponent m e) = max (m.log2 + e - 52) (-1074) := by
  change max ((m.log2 : Int) + 1 + e - 53) (-1074) = max ((m.log2 : Int) + e - 52) (-1074)
  omega

/-- The second shift only halves a mantissa that was rounded up to `2 ^ 53`. -/
theorem shiftToTargetExponent_rounded {r : Nat} {t : Int} (short : r ≤ 2 ^ 53) (low : -1074 ≤ t) :
    (shiftToTargetExponent .binary64 r t .exact).1.mantissa = (if r = 2 ^ 53 then 2 ^ 52 else r) ∧
      (shiftToTargetExponent .binary64 r t .exact).2 = if r = 2 ^ 53 then t + 1 else t := by
  have amount : (max (r.log2 + t - 52) (-1074) - t).toNat = if r = 2 ^ 53 then 1 else 0 := by
    by_cases top : r = 2 ^ 53
    · rw [if_pos top, top, Nat.log2_two_pow]
      omega
    · have bits : r.log2 < 53 := by
        rcases Nat.eq_zero_or_pos r with rfl | pos
        · decide
        · exact (Nat.log2_lt (by omega)).mpr (by omega)
      rw [if_neg top]
      omega
  rw [shiftToTargetExponent, targetExponent_eq, shiftToExponent]
  dsimp only
  rw [mantissa_shiftRight, amount]
  by_cases top : r = 2 ^ 53
  · simp only [if_pos top]
    exact ⟨by rw [top]; rfl, rfl⟩
  · simp only [if_neg top]
    exact ⟨Nat.div_one _, Int.add_zero _⟩

/-- A nearest multiple as the parts of a number: a carry drops its last bit, which is zero. -/
def ofNearest (s : Sign) (r : ℕ) (t : ℤ) : UnpackedFloat :=
  if zero : r = 0 then .zero s
  else if r = 2 ^ 53 then .finite s (2 ^ 52) (t + 1) (by decide)
  else .finite s r t (Nat.pos_of_ne_zero zero)

theorem IsNearest.isRounded_ofNearest {x : ℚ} {r : ℕ} {t : ℤ} (nearest : IsNearest x r t)
    (s : Sign) : IsRounded (ofNearest s r t) := by
  have low := nearest.low
  have short := nearest.le_carry
  unfold ofNearest
  split
  · trivial
  · split
    · exact ⟨by decide, by omega, .inl le_rfl⟩
    · refine ⟨by omega, low, ?_⟩
      by_cases least : t = -1074
      · exact .inr least
      · exact .inl (nearest.ge_of_full least)

/-- The least grid on which a number has 53 bits, or the finest one of all. -/
theorem bounds_of_target {m : ℕ} {e t : ℤ} {y : ℚ} (lower : m ≤ y) (upper : y < m + 1)
    (below : e ≤ t) (target : max (m.log2 + e - 52) (-1074) = t) :
    y * 2 ^ e < 2 ^ 53 * 2 ^ t ∧ (2 ^ 52 * 2 ^ t ≤ y * 2 ^ e ∨ t = -1074) := by
  have unit : (0 : ℚ) < 2 ^ e := two_zpow_pos e
  constructor
  · have bits : m + 1 ≤ 2 ^ (m.log2 + 1) := Nat.lt_log2_self
    have bits : (m : ℚ) + 1 ≤ 2 ^ (m.log2 + 1) := by exact_mod_cast bits
    calc y * 2 ^ e < 2 ^ (m.log2 + 1) * 2 ^ e := by gcongr; linarith
      _ = 2 ^ ((m.log2 + 1 : ℤ) + e) := by rw [zpow_add₀ two_ne_zero]; norm_cast
      _ ≤ 2 ^ (53 + t) := zpow_le_zpow_right₀ one_le_two (by omega)
      _ = 2 ^ 53 * 2 ^ t := by rw [zpow_add₀ two_ne_zero]; norm_cast
  · by_cases least : t = -1074
    · exact .inr least
    · left
      have nonzero : m ≠ 0 := by
        rintro rfl
        rw [Nat.log2_zero] at target
        omega
      have bits : 2 ^ m.log2 ≤ m := Nat.log2_self_le nonzero
      have bits : (2 : ℚ) ^ m.log2 ≤ m := by exact_mod_cast bits
      calc (2 : ℚ) ^ 52 * 2 ^ t = 2 ^ (52 + t) := by rw [zpow_add₀ two_ne_zero]; norm_cast
        _ = 2 ^ ((m.log2 : ℤ) + e) := by congr 1; omega
        _ = 2 ^ m.log2 * 2 ^ e := by rw [zpow_add₀ two_ne_zero]; norm_cast
        _ ≤ y * 2 ^ e := by gcongr; linarith

/-- Rounding takes a mantissa, known up to the fraction that follows it, to the nearest multiple. -/
theorem roundWithAccuracy_nearest (s : Sign) {m : ℕ} {e : ℤ} {accuracy : Accuracy} {y : ℚ}
    (stands : StandsFor (.ofMantissaAndAccuracy m accuracy) y)
    (below : e ≤ max (m.log2 + e - 52) (-1074)) :
    ∃ r t, IsNearest (y * 2 ^ e) r t ∧
      roundWithAccuracy .binary64 s m e accuracy = ofNearest s r t := by
  have lower := stands.lower
  have upper := stands.upper
  rw [mantissa_ofMantissaAndAccuracy] at lower upper
  rw [roundWithAccuracy, shiftToTargetExponent, targetExponent_eq, shiftToExponent]
  generalize target : max (m.log2 + e - 52) (-1074) = t at below
  obtain ⟨n, amount⟩ : ∃ n : ℕ, t = e + n := ⟨(t - e).toNat, by omega⟩
  dsimp only
  rw [show (t - e).toNat = n by omega, ← amount]
  have rounding := (stands.shiftRight n).roundedMantissa
  generalize
    (ExtendedMantissa.ofMantissaAndAccuracy m accuracy >>> n).roundedMantissa = r at rounding ⊢
  have scaled : y * 2 ^ e / 2 ^ t = y / 2 ^ n := by
    rw [amount, zpow_add₀ two_ne_zero, zpow_natCast]
    field_simp
  have nearest : IsNearest (y * 2 ^ e) r t := by
    obtain ⟨short, full⟩ := bounds_of_target lower upper below target
    refine ⟨by omega, short, full, ?_, ?_⟩
    · rw [scaled]
      exact rounding.1
    · rw [scaled]
      exact rounding.2
  refine ⟨r, t, nearest, ?_⟩
  obtain ⟨mantissa, exponent⟩ := shiftToTargetExponent_rounded nearest.le_carry nearest.low
  unfold ofNearest
  by_cases zero : r = 0
  · rw [dif_pos zero, dif_pos]
    rw [mantissa, zero]
    decide
  · rw [dif_neg zero]
    by_cases carry : r = 2 ^ 53
    · rw [if_pos carry] at mantissa exponent ⊢
      rw [dif_neg (by omega)]
      congr
    · rw [if_neg carry] at mantissa exponent ⊢
      rw [dif_neg (by omega)]
      congr

theorem log2_mul_two_pow {m : Nat} (pos : 0 < m) (n : Nat) : (m * 2 ^ n).log2 = m.log2 + n := by
  have scaledPos : 0 < m * 2 ^ n := Nat.mul_pos pos (Nat.two_pow_pos n)
  have lower : 2 ^ m.log2 ≤ m := Nat.log2_self_le (by omega)
  have upper : m < 2 ^ (m.log2 + 1) := Nat.lt_log2_self
  rw [Nat.log2_eq_iff (by omega)]
  constructor
  · rw [Nat.pow_add]
    exact Nat.mul_le_mul_right _ lower
  · rw [show m.log2 + n + 1 = m.log2 + 1 + n by omega, Nat.pow_add]
    exact Nat.mul_lt_mul_of_pos_right upper (Nat.two_pow_pos n)

/-- A mantissa may get more bits at the cost of the exponent. -/
theorem cast_mul_two_pow_mul (m : ℕ) {e k : ℤ} (le : k ≤ e) :
    ((m * 2 ^ (e - k).toNat : ℕ) : ℚ) * 2 ^ k = m * 2 ^ e := by
  obtain ⟨n, rfl⟩ := Int.le.dest le
  rw [show (k + n - k).toNat = n by omega, zpow_add₀ two_ne_zero, zpow_natCast]
  push_cast
  ring

/-- The same for a result whose mantissa may still be too short. -/
theorem round_nearest (s : Sign) {m : ℕ} (pos : 0 < m) (e : ℤ) :
    ∃ r t, IsNearest (m * 2 ^ e) r t ∧
      UnpackedFloat.round .binary64 s m e = ofNearest s r t := by
  rw [UnpackedFloat.round, decreaseExponent, targetExponent_eq]
  dsimp only
  rw [Nat.shiftLeft_eq]
  -- The mantissa keeps its bits or gets more.
  obtain ⟨k, le, longer, exponent⟩ : ∃ k, k ≤ e ∧
      (e - max (m.log2 + e - 52) (-1074)).toNat = (e - k).toNat ∧
      e - ((e - max (m.log2 + e - 52) (-1074)).toNat : ℤ) = k := by
    refine ⟨min e (max (m.log2 + e - 52) (-1074)), ?_, ?_, ?_⟩ <;> omega
  rw [exponent, longer]
  have bits : (m * 2 ^ (e - k).toNat).log2 = m.log2 + (e - k).toNat := log2_mul_two_pow pos _
  have below : k ≤ max ((m * 2 ^ (e - k).toNat).log2 + k - 52) (-1074) := by
    rw [bits]
    omega
  obtain ⟨r, t, nearest, same⟩ := roundWithAccuracy_nearest s (.exact _) below
  rw [cast_mul_two_pow_mul m le] at nearest
  exact ⟨r, t, nearest, same⟩

/-! ## Results that are not rounded to zero -/

/-- The least positive number is a lower bound for all results that reach it. -/
theorem IsNearest.pos_of_le {x : ℚ} {r : ℕ} {t : ℤ} (nearest : IsNearest x r t)
    (reaches : (2 : ℚ) ^ (-1074 : ℤ) ≤ x) : 0 < r := by
  have unit := two_zpow_pos (-1074)
  have least : IsNearest ((2 : ℚ) ^ (-1074 : ℤ)) 1 (-1074) := by
    refine ⟨le_rfl, ?_, .inr rfl, ?_, ?_⟩
    · linarith
    · rw [div_self unit.ne']
      norm_num
    · rw [div_self unit.ne']
      norm_num
  have above := least.mono nearest reaches
  by_contra zero
  rw [Nat.eq_zero_of_not_pos zero, Nat.cast_zero, zero_mul, Nat.cast_one, one_mul] at above
  exact absurd unit (not_lt.mpr above)

theorem IsNearest.exists_finite {x : ℚ} {r : ℕ} {t : ℤ} (nearest : IsNearest x r t)
    (reaches : (2 : ℚ) ^ (-1074 : ℤ) ≤ x) (s : Sign) :
    ∃ m e pos, ofNearest s r t = .finite s m e pos ∧ IsRounded (.finite s m e pos) := by
  have rounded := nearest.isRounded_ofNearest s
  rw [ofNearest, dif_neg (nearest.pos_of_le reaches).ne'] at rounded ⊢
  split at rounded
  · exact ⟨_, _, _, if_pos ‹_›, rounded⟩
  · exact ⟨_, _, _, if_neg ‹_›, rounded⟩

/-- A result that reaches the least positive number is rounded to a positive mantissa. -/
theorem roundWithAccuracy_finite (s : Sign) {m : Nat} {e : Int}
    (reaches : 2 ^ (-1074 - e).toNat ≤ m) (below : e ≤ max (m.log2 + e - 52) (-1074)) :
    ∃ r t pos, roundWithAccuracy .binary64 s m e .exact = .finite s r t pos ∧
      IsRounded (.finite s r t pos) := by
  obtain ⟨r, t, nearest, same⟩ := roundWithAccuracy_nearest s (.exact m) below
  have reaches : ((2 ^ (-1074 - e).toNat : ℕ) : ℚ) ≤ m := by exact_mod_cast reaches
  have least : (2 : ℚ) ^ (-1074 : ℤ) ≤ m * 2 ^ e := by
    calc (2 : ℚ) ^ (-1074 : ℤ) ≤ 2 ^ ((-1074 - e).toNat + e) :=
          zpow_le_zpow_right₀ one_le_two (by omega)
      _ = (2 ^ (-1074 - e).toNat : ℕ) * 2 ^ e := by
          rw [zpow_add₀ two_ne_zero]
          norm_cast
      _ ≤ m * 2 ^ e := by gcongr
  obtain ⟨k, f, pos, shape, rounded⟩ := nearest.exists_finite least s
  exact ⟨k, f, pos, same.trans shape, rounded⟩

/-- The same for a result whose mantissa may still be too short. -/
theorem round_finite (s : Sign) {m : Nat} {e : Int} (pos : 0 < m) (low : -1074 ≤ e) :
    ∃ r t pos, UnpackedFloat.round .binary64 s m e = .finite s r t pos ∧
      IsRounded (.finite s r t pos) := by
  obtain ⟨r, t, nearest, same⟩ := round_nearest s pos e
  have one : (1 : ℚ) ≤ m := by exact_mod_cast pos
  have least : (2 : ℚ) ^ (-1074 : ℤ) ≤ m * 2 ^ e := by
    calc (2 : ℚ) ^ (-1074 : ℤ) ≤ 2 ^ e := zpow_le_zpow_right₀ one_le_two low
      _ ≤ m * 2 ^ e := le_mul_of_one_le_left (two_zpow_pos e).le one
  obtain ⟨k, f, kpos, shape, rounded⟩ := nearest.exists_finite least s
  exact ⟨k, f, kpos, same.trans shape, rounded⟩

/-- A sum that is not zero is not rounded to zero. -/
theorem normalize_ne_zero {m e : Int} (nonzero : m ≠ 0) (low : -1074 ≤ e) (zero : Sign) :
    ∃ s r t pos, UnpackedFloat.normalize .binary64 m e zero = .finite s r t pos ∧
      IsRounded (.finite s r t pos) := by
  rw [UnpackedFloat.normalize]
  split
  · rename_i negative
    exact ⟨.negative, round_finite .negative (by have := Int.compare_eq_lt.mp negative; omega) low⟩
  · rename_i same
    exact absurd (Int.compare_eq_eq.mp same) nonzero
  · rename_i positive
    exact ⟨.positive, round_finite .positive (by have := Int.compare_eq_gt.mp positive; omega) low⟩

end Semblance.Binary64
