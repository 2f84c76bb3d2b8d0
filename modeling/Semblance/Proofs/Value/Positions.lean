import Semblance.Expr.Eval
import Semblance.Proofs.Decimal.RoundTrip
import Semblance.Proofs.Text.Classes
import Semblance.Proofs.Value.Coercion

/-!
# Positions

A position in a list or a text may be given as a number or as the decimal text of one. Both are read
as binary64 numbers, which tell apart all positions below `2 ^ 53`; from there on no position is
read at all.
-/

namespace Semblance

namespace Binary64

open Float.Model Float.Model.UnpackedFloat

variable {n : ℕ} {x y : Float} {p : ℚ}

/-! ## Whole numbers -/

/-- Cutting off the bits behind the point keeps a whole number. -/
theorem roundToInt_of_eq {m : ℕ} {e : ℤ} (whole : (m * 2 ^ e : ℚ) = n) :
    roundToInt .positive m e = n := by
  obtain ⟨k, rfl | rfl⟩ := e.eq_nat_or_neg
  · have value : m * 2 ^ k = n := by
      rw [zpow_natCast] at whole
      exact_mod_cast whole
    simp only [roundToInt, decreaseExponent, shiftToExponent, mantissa_shiftRight,
      mantissa_ofMantissaAndAccuracy, Nat.shiftLeft_eq, sub_zero, Int.toNat_natCast, sub_self,
      Int.toNat_zero, pow_zero, Nat.div_one, value]
    rfl
  · have value : m = n * 2 ^ k := by
      rw [zpow_neg, zpow_natCast, mul_inv_eq_iff_eq_mul₀ (by positivity)] at whole
      exact_mod_cast whole
    have cut : (-(k : ℤ)).toNat = 0 := by omega
    simp only [roundToInt, decreaseExponent, shiftToExponent, mantissa_shiftRight,
      mantissa_ofMantissaAndAccuracy, Nat.shiftLeft_eq, sub_zero, zero_sub, cut, pow_zero, mul_one,
      Nat.cast_zero, Int.neg_neg, Int.toNat_natCast, value,
      Nat.mul_div_cancel _ (Nat.two_pow_pos k)]
    rfl

theorem toUInt64_toNat_of_hasValue (value : HasValue (parts x) n) (small : n < 2 ^ 64) :
    x.toUInt64.toNat = n := by
  change (UInt64.ofNatClamp ((parts x).toInt 0 (UInt64.size - 1)).toNat).toNat = n
  have whole : (parts x).toInt 0 (UInt64.size - 1) = n := by
    generalize parts x = u at value
    generalize same : (n : ℚ) = p at value
    cases value with
    | zero s =>
        rw [Nat.cast_eq_zero.mp same]
        rfl
    | finite m e pos => exact roundToInt_of_eq same.symm
  rw [whole, Int.toNat_natCast, UInt64.toNat_ofNatClamp_of_lt small]

/-- Of two numbers with an order only one is the smaller. -/
theorem not_lt_of_le (value : HasValue (parts x) p) (le : x ≤ y) : ¬ y < x := by
  obtain ⟨t, size, ge⟩ := (HasSize.finite value).exists_ge le
  have rounded := isRounded_parts y
  rw [Binary64.lt_iff]
  generalize parts y = v at *
  intro less
  cases size with
  | infinite =>
      generalize parts x = u at *
      cases value <;> cases less
  | finite other =>
      have below := (other.lt_iff value rounded (isRounded_parts x)).mp less
      exact absurd below (not_lt.mpr (WithTop.coe_le_coe.mp ge))

end Binary64

namespace Value

open Binary64 Float.Model Text

variable {i : ℕ} {k : Value} {cs : List Char}

/-! ## The text of a position -/

theorem toList_toString (i : ℕ) : (toString i).toList = (⟨i, 0⟩ : Decimal).digits := by
  rw [Nat.toString_eq_ofList_toDigits, String.toList_ofList]
  rfl

theorem dropWhile_isBlank_of_digits (digits : ∀ c ∈ cs, isAsciiDigit c = true) :
    cs.dropWhile isBlank = cs := by
  cases cs with
  | nil => rfl
  | cons c rest =>
      have shown : ¬ isBlank c = true := by
        intro blank
        have digit := digits c List.mem_cons_self
        rw [isAsciiDigit_of_isBlank blank] at digit
        cases digit
      exact List.dropWhile_cons_of_neg shown

theorem trim_eq_of_digits (digits : ∀ c ∈ cs, isAsciiDigit c = true) : trim cs = cs := by
  have reversed : ∀ c ∈ cs.reverse, isAsciiDigit c = true :=
    fun c mem => digits c (List.mem_reverse.mp mem)
  rw [trim, dropWhile_isBlank_of_digits digits, dropWhile_isBlank_of_digits reversed,
    List.reverse_reverse]

theorem textToNumber_toString (i : ℕ) : textToNumber (toString i) = Float.ofNat i := by
  have numeral := Decimal.isNumeral_digits ⟨i, 0⟩
  have written : Decimal.InPositions (⟨i, 0⟩ : Decimal).digits i 0 := by
    have whole := Decimal.InPositions.whole numeral
    rwa [Decimal.digitsValue_digits] at whole
  have value : Decimal.readUnsigned (⟨i, 0⟩ : Decimal).digits = some (Float.ofNat i) :=
    written.readUnsigned_eq
  have read : Decimal.readFloat (⟨i, 0⟩ : Decimal).digits = some (Float.ofNat i) := by
    simp [Decimal.readFloat, written.readSign_eq, value]
  rw [textToNumber, toList_toString, trim_eq_of_digits numeral.2]
  split
  · rename_i empty
    exact absurd empty numeral.1
  · rw [read]
    rfl

/-! ## Positions that are read -/

theorem hasValue_exactBound : HasValue (parts exactBound) (2 ^ 53 : ℕ) := by
  have value := HasValue.finite (2 ^ 52) 1 (by decide)
  norm_num at value ⊢
  exact value

theorem ofNat_lt_exactBound_iff : Float.ofNat i < exactBound ↔ i < 2 ^ 53 := by
  constructor
  · intro less
    by_contra large
    have le : exactBound ≤ Float.ofNat i :=
      le_of_holds (HasSize.finite hasValue_exactBound).holds (holds_ofNat i)
        (WithTop.coe_le_coe.mpr (by exact_mod_cast not_lt.mp large))
    exact not_lt_of_le hasValue_exactBound le less
  · intro small
    exact lt_of_hasValue (hasValue_ofNat small) hasValue_exactBound (by exact_mod_cast small)

/-- The value stands for a position: a number that is equal to it, or its decimal text. -/
inductive IsPosition : Value → ℕ → Prop where
  | number {n : Number} {i : ℕ} (equal : (n.toFloat == Float.ofNat i) = true) :
      IsPosition (.number n) i
  | text (i : ℕ) : IsPosition (.string (toString i)) i

theorem isPosition_ofNat (small : i < 2 ^ 64) : IsPosition (ofNat i) i := by
  have whole : Number.ofNat i = .int i (by omega) (by omega) := dif_pos small
  rw [ofNat, whole]
  exact .number ((beq_iff _ _).mpr (.inl ⟨isNaN_ofNat i, rfl⟩))

/-- A length is asked for by name, and no position is that name. -/
theorem isLengthName_of_isPosition (position : IsPosition k i) : k.isLengthName = false := by
  cases position with
  | number => rfl
  | text =>
      rw [isLengthName, beq_eq_false_iff_ne]
      intro name
      have digits := (Decimal.isNumeral_digits ⟨i, 0⟩).2
      rw [← toList_toString, name] at digits
      exact absurd (digits 'l' (by decide)) (by decide)

theorem index_ofNat (i : ℕ) :
    (if 0.0 ≤ Float.ofNat i && Float.ofNat i < exactBound &&
        Float.ofNat (Float.ofNat i).toUInt64.toNat == Float.ofNat i
      then some (Float.ofNat i).toUInt64.toNat else none) = if i < 2 ^ 53 then some i else none := by
  by_cases small : i < 2 ^ 53
  · have nonneg : 0.0 ≤ Float.ofNat i :=
      zero_le_of_holds (holds_ofNat i) (WithTop.coe_le_coe.mpr (Nat.cast_nonneg i))
    have self : (Float.ofNat i == Float.ofNat i) = true :=
      (beq_iff _ _).mpr (.inl ⟨isNaN_ofNat i, rfl⟩)
    have whole : (Float.ofNat i).toUInt64.toNat = i :=
      toUInt64_toNat_of_hasValue (hasValue_ofNat small) (by omega)
    rw [if_pos small]
    simp [whole, self, nonneg, ofNat_lt_exactBound_iff.mpr small]
  · have large := mt ofNat_lt_exactBound_iff.mp small
    rw [if_neg small]
    simp [large]

/-- Every position below `2 ^ 53` is read, and none from there on. -/
theorem toIndex?_of_isPosition (position : IsPosition k i) :
    k.toIndex? = if i < 2 ^ 53 then some i else none := by
  cases position with
  | text => simpa only [toIndex?, toNumber, textToNumber_toString] using index_ofNat i
  | number equal =>
      rcases (beq_iff _ _).mp equal with ⟨-, same⟩ | ⟨left, right⟩
      · simpa only [toIndex?, toNumber, same] using index_ofNat i
      · have first : (i : ℤ) = 0 := eq_zero_of_isZero_ofInt right
        rw [Int.natCast_eq_zero.mp first]
        exact toIndex?_of_isZero left

theorem toIndex?_bind {α : Type} (position : IsPosition k i) (f : ℕ → Option α) :
    k.toIndex?.bind f = if i < 2 ^ 53 then f i else none := by
  rw [toIndex?_of_isPosition position]
  split <;> rfl

end Value

end Semblance
