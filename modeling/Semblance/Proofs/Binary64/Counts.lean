import Semblance.Proofs.Binary64.Monotone

/-!
# Counts and their quotients

A count of less than 53 bits is a binary64 number, not only rounded to one. A count over itself is
one. Of a smaller count over a larger one it is stated that it stays below one; it is rounded, but
not as far as that.
-/

namespace Semblance.Binary64

open Float.Model Float.Model.UnpackedFloat

/-! ## Numbers of a known value -/

variable {u v : UnpackedFloat} {p q : ℚ} {x y : Float}

theorem HasValue.lt_iff (left : HasValue u p) (right : HasValue v q) (first : IsRounded u)
    (second : IsRounded v) : u.lt v = true ↔ p < q := by
  rw [← not_le, ← right.le_iff left second first, Bool.not_eq_true]
  cases left with
  | zero s =>
      cases right with
      | zero t => exact iff_of_false Bool.false_ne_true nofun
      | finite n f npos => exact iff_of_true rfl rfl
  | finite m e mpos =>
      cases right with
      | zero t => exact iff_of_false Bool.false_ne_true nofun
      | finite n f npos =>
          change (some ((compare e f).then (compare m n)) == some .lt) = true ↔
            ((compare f e).then (compare n m)).isLE = false
          rw [← Int.compare_swap e f, ← Nat.compare_swap m n]
          cases compare e f <;> cases compare m n <;> decide

theorem lt_of_hasValue (left : HasValue (parts x) p) (right : HasValue (parts y) q) (less : p < q) :
    x < y :=
  (Binary64.lt_iff x y).mpr ((left.lt_iff right (isRounded_parts x) (isRounded_parts y)).mpr less)

/-- But for the zeros there is one number of each value. -/
theorem eq_of_hasValue (left : HasValue (parts x) p) (right : HasValue (parts y) p) (pos : 0 < p) :
    x = y := by
  have first := isRounded_parts x
  have second := isRounded_parts y
  apply parts_injective
  generalize parts x = u at *
  generalize parts y = v at *
  cases left with
  | zero s => exact absurd pos (lt_irrefl 0)
  | finite m e mpos =>
      generalize same : (m : ℚ) * 2 ^ e = value at right
      cases right with
      | zero t => exact absurd same pos.ne'
      | finite n f npos =>
          have exponents : e = f := by
            rcases lt_trichotomy e f with less | equal | greater
            · exact absurd same (lt_of_exponent_lt first second less).ne
            · exact equal
            · exact absurd same (lt_of_exponent_lt second first greater).ne'
          subst exponents
          have mantissas : (m : ℚ) = n := mul_right_cancel₀ (two_zpow_pos e).ne' same
          cases Nat.cast_injective mantissas
          rfl

/-- Where the exact result is a number, the rounded result is that number. -/
theorem eq_of_holds (value : HasValue (parts x) p) (pos : 0 < p) (holds : Holds (parts y) p) :
    y = x := by
  have whole : Holds (parts x) p := (HasSize.finite value).holds
  have lower : x ≤ y := le_of_holds whole holds le_rfl
  have upper : y ≤ x := le_of_holds holds whole le_rfl
  have nonneg : 0.0 ≤ y := zero_le_of_holds holds (WithTop.coe_le_coe.mpr pos.le)
  obtain ⟨q, other, le⟩ := value.exists_le nonneg upper
  have ge : p ≤ q :=
    (value.le_iff other (isRounded_parts x) (isRounded_parts y)).mp
      ((Binary64.le_iff x y).mp lower)
  exact eq_of_hasValue (le_antisymm le ge ▸ other) value pos

/-! ## Counts -/

variable {i n : ℕ}

/-- A count is shifted to a mantissa of 53 bits. -/
theorem exists_hasValue_count (pos : 0 < n) (small : n < 2 ^ 53) :
    ∃ x : Float, HasValue (parts x) n := by
  have bits : n.log2 < 53 := (Nat.log2_lt (by omega)).mpr small
  generalize shift : 52 - n.log2 = k
  have mpos : 0 < n * 2 ^ k := Nat.mul_pos pos (Nat.two_pow_pos k)
  have full : (n * 2 ^ k).log2 = 52 := by
    rw [log2_mul_two_pow pos]
    omega
  have rounded : IsRounded (.finite .positive (n * 2 ^ k) (-k) mpos) := by
    refine ⟨(Nat.log2_lt mpos.ne').mp (by omega), by omega, .inl ?_⟩
    exact (Nat.le_log2 mpos.ne').mp full.ge
  refine ⟨ofParts (.finite .positive (n * 2 ^ k) (-k) mpos), ?_⟩
  have value := HasValue.finite (n * 2 ^ k) (-k) mpos
  rw [Nat.cast_mul, Nat.cast_pow, Nat.cast_two, zpow_neg, zpow_natCast,
    mul_inv_cancel_right₀ (by positivity)] at value
  rw [parts_ofParts rounded, overflowed, if_neg (by omega)]
  exact value

theorem holds_toFloat {w : UInt64} (pos : 0 < w.toNat) :
    Holds (parts w.toFloat) ((w.toNat : ℚ) : WithTop ℚ) := by
  have positive : compare (w.toNat : Int) 0 = .gt := Int.compare_eq_gt.mpr (by omega)
  obtain ⟨r, t, nearest, same⟩ := round_nearest .positive pos 0
  rw [zpow_zero, mul_one] at nearest
  have rounds := nearest.roundsTo
  change Holds (parts (ofParts (UnpackedFloat.normalize .binary64 (w.toNat : Int) 0 .positive))) _
  rw [UnpackedFloat.normalize, positive]
  dsimp only
  rw [Int.toNat_natCast, same, parts_ofParts rounds.1]
  exact .finite rounds

/-- A word of less than 53 bits is held exactly. -/
theorem hasValue_toUInt64 (small : n < 2 ^ 53) : HasValue (parts n.toUInt64.toFloat) n := by
  rcases Nat.eq_zero_or_pos n with rfl | pos
  · have zero : parts (Nat.toUInt64 0).toFloat = .zero .positive := rfl
    rw [zero, Nat.cast_zero]
    exact .zero .positive
  · have word : n.toUInt64.toNat = n := by
      rw [Nat.toUInt64_eq, UInt64.toNat_ofNat', Nat.mod_eq_of_lt (by omega)]
    obtain ⟨x, value⟩ := exists_hasValue_count pos small
    have digits := holds_toFloat (w := n.toUInt64) (by omega)
    rw [word] at digits
    rw [eq_of_holds value (by exact_mod_cast pos) digits]
    exact value

theorem hasValue_ofNat (small : n < 2 ^ 53) : HasValue (parts (Float.ofNat n)) n := by
  rcases Nat.eq_zero_or_pos n with rfl | pos
  · have zero : parts (Float.ofNat 0) = .zero .positive := rfl
    rw [zero, Nat.cast_zero]
    exact .zero .positive
  · have value := hasValue_toUInt64 small
    -- The power of ten that the digits are scaled by is one.
    have scaled : Float.ofNat n = n.toUInt64.toFloat * 1.0 := by
      change Float.ofScientific n false 0 = _
      rw [Float.ofScientific, dif_pos ⟨small, by decide⟩]
      rfl
    have product := holds_mul (.finite value) hasValue_one one_pos
    rw [WithTop.map_coe, mul_one] at product
    rw [scaled, eq_of_holds value (by exact_mod_cast pos) product]
    exact value

theorem ofNat_div_self (pos : 0 < n) (small : n < 2 ^ 53) :
    Float.ofNat n / Float.ofNat n = 1.0 := by
  have positive : (0 : ℚ) < n := by exact_mod_cast pos
  have value := hasValue_ofNat small
  have quotient := holds_div value value positive
  rw [div_self positive.ne'] at quotient
  exact eq_of_holds hasValue_one one_pos quotient

/-- The number before one. -/
theorem hasValue_belowOne : HasValue (parts 0.9999999999999999) (1 - 2 ^ (-53 : ℤ)) := by
  have value := HasValue.finite (2 ^ 53 - 1) (-53) (by decide)
  norm_num at value ⊢
  exact value

theorem ofNat_div_lt_one (less : i < n) (small : n < 2 ^ 53) :
    Float.ofNat i / Float.ofNat n < 1.0 := by
  have positive : (0 : ℚ) < n := by exact_mod_cast Nat.zero_lt_of_lt less
  have quotient := holds_div (hasValue_ofNat (less.trans small)) (hasValue_ofNat small) positive
  have below : (i : ℚ) / n ≤ 1 - 2 ^ (-53 : ℤ) := by
    have gap : (i : ℚ) + 1 ≤ n := by exact_mod_cast less
    have short : 2 ^ (-53 : ℤ) * (n : ℚ) ≤ 1 := by
      have bits : (n : ℚ) ≤ 2 ^ 53 := by exact_mod_cast small.le
      calc 2 ^ (-53 : ℤ) * (n : ℚ) ≤ 2 ^ (-53 : ℤ) * 2 ^ 53 := by gcongr
        _ = 1 := by norm_num
    rw [div_le_iff₀ positive]
    linarith
  have nonneg : 0.0 ≤ Float.ofNat i / Float.ofNat n :=
    zero_le_of_holds quotient (WithTop.coe_le_coe.mpr (by positivity))
  have upper : Float.ofNat i / Float.ofNat n ≤ 0.9999999999999999 :=
    le_of_holds quotient (HasSize.finite hasValue_belowOne).holds (WithTop.coe_le_coe.mpr below)
  obtain ⟨r, value, le⟩ := hasValue_belowOne.exists_le nonneg upper
  exact lt_of_hasValue value hasValue_one (le.trans_lt (sub_lt_self 1 (two_zpow_pos _)))

end Semblance.Binary64
