import Semblance.Proofs.Binary64.Distance
import Semblance.Proofs.Value.Positions

/-!
# Whole numbers and the integers that hold them

A computed number is held as an integer exactly if it is whole, below `2 ^ 53` in magnitude, and not
the negative zero, and then as the integer with its value. Whichever way a finite number is held, it
reads as the same bits, so that reading a number and holding it again keeps it equal.
-/

namespace Semblance

namespace Binary64

open Float.Model Float.Model.UnpackedFloat

variable {x : Float} {k : ℤ} {n : ℕ}

/-! ## From numbers to integers -/

/-- A sign is put before the whole part, however that is found. -/
theorem roundToInt_apply (s : Sign) (m : ℕ) (e : ℤ) :
    roundToInt s m e = s.apply (roundToInt .positive m e).toNat :=
  rfl

theorem toInt_of_exact {u : UnpackedFloat} (finite : u.isFinite = true) (whole : exact u = k)
    (low high : ℤ) : u.toInt low high = k := by
  cases u with
  | notANumber => cases finite
  | infinity s => cases finite
  | zero s => exact (Int.cast_eq_zero.mp whole.symm).symm
  | finite s m e pos =>
      have magnitude : (m * 2 ^ e : ℚ) = k.natAbs := by
        have sizes := congrArg (fun q : ℚ => |q|) whole
        rw [exact, abs_mul, abs_of_pos (two_zpow_pos e), ← Int.cast_abs, abs_apply] at sizes
        rw [Nat.cast_natAbs, Int.cast_abs, ← sizes, Int.cast_natCast]
      have positive : (0 : ℚ) < m * 2 ^ e := by positivity
      rw [UnpackedFloat.toInt, roundToInt_apply, roundToInt_of_eq magnitude, Int.toNat_natCast]
      -- What is left is that the sign is the one of the integer.
      cases s with
      | positive =>
          have above : (0 : ℚ) < k := by rwa [← whole, exact, Sign.apply, Int.cast_natCast]
          have above : 0 < k := by exact_mod_cast above
          change (k.natAbs : ℤ) = k
          omega
      | negative =>
          have below : (k : ℚ) < 0 := by
            rw [← whole, exact, Sign.apply, Int.cast_neg, Int.cast_natCast, neg_mul]
            exact neg_neg_of_pos positive
          have below : k < 0 := by exact_mod_cast below
          change -(k.natAbs : ℤ) = k
          omega

theorem toInt64_of_exactValue (finite : x.isFinite = true) (whole : exactValue x = k)
    (small : k.natAbs < 2 ^ 53) : x.toModel.toInt64.toInt = k := by
  change (Int64.ofIntClamp ((parts x).toInt _ _)).toInt = k
  have integer (low high : ℤ) : (parts x).toInt low high = k := toInt_of_exact finite whole low high
  have lower : Int64.minValue.toInt ≤ k := le_trans (by decide) (show -2 ^ 53 ≤ k by omega)
  have upper : k ≤ Int64.maxValue.toInt := le_trans (show k ≤ 2 ^ 53 by omega) (by decide)
  rw [integer, Int64.toInt_ofIntClamp lower upper]

/-! ## From integers to numbers -/

theorem exactValue_ofNat (small : n < 2 ^ 53) : exactValue (Float.ofNat n) = n :=
  (hasValue_ofNat small).exact_eq

theorem exactValue_ofInt (small : k.natAbs < 2 ^ 53) : exactValue (Float.ofInt k) = k := by
  cases k with
  | ofNat n => exact (exactValue_ofNat small).trans (Int.cast_natCast n).symm
  | negSucc n =>
      change exactValue (-Float.ofNat (n + 1)) = _
      rw [exactValue_neg, exactValue_ofNat (by omega), Int.cast_negSucc]

/-- The absolute value is below a bound when the exact one is. -/
theorem abs_lt_exactBound_iff (finite : x.isFinite = true) :
    x.abs < Value.exactBound ↔ |exactValue x| < 2 ^ 53 := by
  have size : HasValue (parts x.abs) |exactValue x| := by
    rw [parts_abs]
    exact hasValue_abs finite
  rw [Binary64.lt_iff, size.lt_iff Value.hasValue_exactBound (isRounded_parts _)
    (isRounded_parts _)]
  norm_cast

/-- Rounding does not bring an integer below `2 ^ 53`. -/
theorem natAbs_lt_of_exactValue_ofInt (held : k.natAbs ≤ 2 ^ 64)
    (small : |exactValue (Float.ofInt k)| < 2 ^ 53) : k.natAbs < 2 ^ 53 := by
  have magnitude : |exactValue (Float.ofNat k.natAbs)| < 2 ^ 53 := by
    cases k with
    | ofNat n => exact small
    | negSucc n =>
        rw [← abs_neg, ← exactValue_neg]
        exact small
  have nonneg : 0.0 ≤ Float.ofNat k.natAbs :=
    zero_le_of_holds (holds_ofNat _) (WithTop.coe_le_coe.mpr (Nat.cast_nonneg _))
  have finite := isFinite_ofNat held
  obtain ⟨t, size⟩ := exists_hasSize nonneg
  rw [← Value.ofNat_lt_exactBound_iff]
  rw [isFinite_eq] at finite
  have rounded := isRounded_parts (Float.ofNat k.natAbs)
  rw [exactValue] at magnitude
  rw [Binary64.lt_iff]
  generalize parts (Float.ofNat k.natAbs) = u at *
  cases size with
  | infinite => cases finite
  | finite value =>
      rw [value.exact_eq, abs_of_nonneg value.nonneg] at magnitude
      refine (value.lt_iff Value.hasValue_exactBound rounded (isRounded_parts _)).mpr ?_
      exact_mod_cast magnitude

end Binary64

namespace Value

open Binary64

variable {x : Float} {k : ℤ}

/-- The sign of a zero is seen in its bits only. -/
theorem isSignPositive_of_isZero (zero : IsZero x) (other : x.toBits ≠ (-0.0 : Float).toBits) :
    isSignPositive x = true := by
  obtain ⟨s, shape⟩ := zero
  cases s with
  | positive =>
      rw [show x = 0.0 from parts_injective shape]
      decide +kernel
  | negative => exact absurd (congrArg Float.toBits (parts_injective shape : x = -0.0)) other

/-- The number is an integer below `2 ^ 53` in magnitude, and not the negative zero. -/
structure IsShortWhole (x : Float) (k : ℤ) : Prop where
  finite : x.isFinite = true
  whole : exactValue x = k
  short : k.natAbs < 2 ^ 53
  unsigned : x.toBits ≠ (-0.0 : Float).toBits

theorem IsShortWhole.ofFloat_eq (held : IsShortWhole x k) (lower : -0x8000000000000000 ≤ k)
    (upper : k < 0x10000000000000000) : ofFloat x = number (.int k lower upper) := by
  have integer := toInt64_of_exactValue held.finite held.whole held.short
  have small := held.short
  have below : x.abs < exactBound := by
    rw [abs_lt_exactBound_iff held.finite, held.whole, ← Int.cast_abs, Int.abs_eq_natAbs]
    exact_mod_cast small
  have equal : Float.ofInt x.toModel.toInt64.toInt == x := by
    rw [integer, beq_iff_exactValue (isFinite_ofInt (by omega)) held.finite,
      exactValue_ofInt held.short, held.whole]
  have sign : x.toModel.toInt64 ≠ 0 ∨ isSignPositive x = true := by
    by_cases none : x.toModel.toInt64 = 0
    · have zero : k = 0 := by
        rw [← integer, none]
        rfl
      refine .inr (isSignPositive_of_isZero ?_ held.unsigned)
      rw [isZero_iff_exactValue held.finite, held.whole, zero, Int.cast_zero]
    · exact .inl none
  have guard : (decide (x.abs < exactBound) && Float.ofInt x.toModel.toInt64.toInt == x &&
      (x.toModel.toInt64 != 0 || isSignPositive x)) = true := by
    simpa [below, equal] using sign
  unfold ofFloat
  dsimp only
  rw [if_pos guard]
  simp only [integer]

theorem isShortWhole_of_ofFloat_eq {lower : -0x8000000000000000 ≤ k}
    {upper : k < 0x10000000000000000}
    (held : ofFloat x = number (.int k lower upper)) : IsShortWhole x k := by
  have same : Float.ofInt k = x := toFloat_of_ofFloat_eq_number held
  have finite : x.isFinite = true := by
    rw [← same]
    exact isFinite_ofInt (by omega)
  rw [ofFloat] at held
  split at held
  · rename_i guard
    simp only [Bool.and_eq_true, decide_eq_true_eq, Bool.or_eq_true, bne_iff_ne] at guard
    obtain ⟨⟨short, -⟩, sign⟩ := guard
    injection held with held
    injection held with integer
    rw [abs_lt_exactBound_iff finite, ← same] at short
    have small := natAbs_lt_of_exactValue_ofInt (by omega) short
    have exact := exactValue_ofInt (k := k) (by omega)
    refine ⟨finite, same ▸ exact, by omega, ?_⟩
    intro negative
    -- The negative zero has the whole part zero, and its sign bit is set.
    rw [Float.toBits_inj.mp negative] at sign
    revert sign
    decide +kernel
  · split at held
    · rename_i n float
      injection held with held
      rw [held, Number.ofFloat?, dif_pos finite] at float
      cases float
    · cases held

theorem ofFloat_eq_int_iff {lower : -0x8000000000000000 ≤ k} {upper : k < 0x10000000000000000} :
    ofFloat x = number (.int k lower upper) ↔ IsShortWhole x k :=
  ⟨isShortWhole_of_ofFloat_eq, fun held => held.ofFloat_eq lower upper⟩

theorem ofFloat_eq_null_iff : ofFloat x = null ↔ x.isFinite = false := by
  refine ⟨fun missing => ?_, ofFloat_eq_null⟩
  rw [← Bool.not_eq_true]
  intro finite
  obtain ⟨n, held⟩ := exists_ofFloat_eq_number finite
  rw [missing] at held
  cases held

/-- A number that is read and held again stays equal, although it may be held in another way. -/
theorem strictEq_ofFloat_toNumber (n : Number) :
    (ofFloat (number n).toNumber).strictEq (number n) = true := by
  obtain ⟨m, held⟩ := exists_ofFloat_eq_number (isFinite_toFloat n)
  change (ofFloat n.toFloat).strictEq (number n) = true
  rw [held]
  refine strictEq_iff.mpr (.number ?_)
  rw [toFloat_of_ofFloat_eq_number held]
  exact (beq_iff _ _).mpr (.inl ⟨isNaN_toFloat n, rfl⟩)

/-- Finite numbers survive being held as values, bit by bit; others are held as null. Integers hold
the whole numbers below `2 ^ 53` in magnitude, but for the negative zero, and no other number. -/
theorem ofFloat_isLossless :
    (∀ x : Float, x.isFinite = true → (ofFloat x).toNumber.toBits = x.toBits) ∧
      (∀ x : Float, ofFloat x = null ↔ x.isFinite = false) ∧
      (∀ (x : Float) (k : ℤ) lower upper,
        ofFloat x = number (.int k lower upper) ↔ IsShortWhole x k) ∧
      ∀ n : Number, (ofFloat (number n).toNumber).strictEq (number n) = true := by
  refine ⟨fun x finite => ?_, fun x => ofFloat_eq_null_iff, fun x k lower upper => ?_,
    strictEq_ofFloat_toNumber⟩
  · rw [toNumber_ofFloat finite]
  · exact ofFloat_eq_int_iff

/-- The negative zero keeps its sign, and the least whole number in range is held as an integer. -/
theorem ofFloat_isLossless_least :
    (-0.0 : Float).isFinite = true ∧
      (ofFloat (-0.0)).toNumber.toBits = (-0.0 : Float).toBits ∧
      IsShortWhole (-9007199254740991.0) (-9007199254740991) ∧
      ofFloat (-9007199254740991.0) =
        number (.int (-9007199254740991) (by decide) (by decide)) := by
  obtain ⟨bits, -, integers, -⟩ := ofFloat_isLossless
  have finite : (-0.0 : Float).isFinite = true := by decide +kernel
  have shape : parts (-9007199254740991.0) =
      .finite .negative 9007199254740991 0 (by decide) := by rfl
  have whole : IsShortWhole (-9007199254740991.0) (-9007199254740991) := by
    refine ⟨by decide +kernel, ?_, by decide, by decide +kernel⟩
    rw [exactValue, shape]
    norm_num [exact, Float.Model.UnpackedFloat.Sign.apply]
  exact ⟨finite, bits _ finite, whole, (integers _ _ _ _).mpr whole⟩

end Value

end Semblance
