import Semblance.Proofs.Binary64.Counts
import Semblance.Proofs.Binary64.Integers
import Semblance.Proofs.Value.Number

/-!
# Distances of binary64 numbers

Of two finite numbers the exact difference is rounded, whatever their signs are. So distances keep
the order of the exact ones, and only equal numbers have none.
-/

namespace Semblance.Binary64

open Float.Model Float.Model.UnpackedFloat

/-! ## Exact values -/

/-- The value of finite parts. Other parts have none and count as zero. -/
def exact : UnpackedFloat → ℚ
  | .finite s m e _ => (s.apply m : ℤ) * 2 ^ e
  | _ => 0

/-- The value of a finite number. -/
def exactValue (x : Float) : ℚ := exact (parts x)

variable {u v : UnpackedFloat} {p q : ℚ} {x y : Float}

theorem HasValue.exact_eq (value : HasValue u p) : exact u = p := by
  cases value with
  | zero s => rfl
  | finite m e pos => rfl

theorem abs_apply (s : Sign) (m : ℕ) : |s.apply m| = m := by
  cases s <;> simp [Sign.apply]

/-- Without its sign, a number is held with the absolute value. -/
theorem hasValue_abs (finite : u.isFinite = true) : HasValue u.abs |exact u| := by
  cases u with
  | notANumber => cases finite
  | infinity s => cases finite
  | zero s =>
      rw [show exact (.zero s) = 0 from rfl, abs_zero]
      exact .zero _
  | finite s m e pos =>
      have magnitude : |exact (.finite s m e pos)| = m * 2 ^ e := by
        rw [exact, abs_mul, abs_of_pos (two_zpow_pos e), ← Int.cast_abs, abs_apply,
          Int.cast_natCast]
      rw [magnitude]
      exact .finite m e pos

theorem hasValue_of_nonneg (finite : u.isFinite = true) (nonneg : 0 ≤ exact u) :
    HasValue u (exact u) := by
  cases u with
  | notANumber => cases finite
  | infinity s => cases finite
  | zero s => exact .zero s
  | finite s m e pos =>
      cases s with
      | positive => exact .finite m e pos
      | negative =>
          have below : exact (.finite .negative m e pos) < 0 := by
            have above : (0 : ℚ) < m * 2 ^ e := by positivity
            simpa [exact, Sign.apply] using above
          exact absurd nonneg (not_le.mpr below)

theorem exact_neg (u : UnpackedFloat) : exact u.neg = -exact u := by
  cases u with
  | finite s m e pos =>
      rw [UnpackedFloat.neg, exact, exact, apply_neg, Int.cast_neg, neg_mul]
  | _ => exact neg_zero.symm

theorem HasValue.abs (value : HasValue u p) : HasValue u.abs p := by
  cases value with
  | zero s => exact .zero _
  | finite m e pos => exact .finite m e pos

theorem RoundsTo.abs (rounds : RoundsTo p u) : RoundsTo p u.abs := by
  obtain ⟨rounded, r, t, nearest, value⟩ := rounds
  refine ⟨?_, r, t, nearest, value.abs⟩
  cases u <;> exact rounded

/-! ## Results of either sign -/

/-- Zeros and negative parts. -/
inductive IsNonpositive : UnpackedFloat → Prop where
  | zero (s : Sign) : IsNonpositive (.zero s)
  | finite (m : ℕ) (e : ℤ) (pos : 0 < m) : IsNonpositive (.finite .negative m e pos)
  | infinite : IsNonpositive (.infinity .negative)

/-- What an exact result of either sign is rounded to: its sign is kept, and nothing but zero
becomes a zero. How a negative result is rounded is left open. -/
structure IsRounding (p : ℚ) (u : UnpackedFloat) : Prop where
  rounds : 0 ≤ p → RoundsTo p u
  nonpos : p ≤ 0 → IsNonpositive u
  zero : ∀ s, u = .zero s → p = 0

theorem isRounding_zero (s : Sign) : IsRounding 0 (.zero s) where
  rounds _ := (HasValue.zero s).roundsTo trivial
  nonpos _ := .zero s
  zero _ _ := rfl

/-- What needs no rounding stays as it is. -/
theorem isRounding_exact (finite : u.isFinite = true) (rounded : IsRounded u) :
    IsRounding (exact u) u := by
  refine ⟨fun nonneg => (hasValue_of_nonneg finite nonneg).roundsTo rounded, ?_, ?_⟩
  · intro nonpos
    cases u with
    | notANumber => cases finite
    | infinity s => cases finite
    | zero s => exact .zero s
    | finite s m e pos =>
        cases s with
        | negative => exact .finite m e pos
        | positive =>
            have above : (0 : ℚ) < m * 2 ^ e := by positivity
            exact absurd nonpos (not_le.mpr above)
  · rintro s rfl
    rfl

/-- Multiples of powers of two that are not too small are rounded. -/
theorem isRounding_normalize (d : ℤ) {e : ℤ} (low : -1074 ≤ e) :
    IsRounding (d * 2 ^ e) (UnpackedFloat.normalize .binary64 d e .positive) := by
  have unit := two_zpow_pos e
  rcases lt_trichotomy d 0 with neg | rfl | pos
  · have below : d * 2 ^ e < (0 : ℚ) := mul_neg_of_neg_of_pos (by exact_mod_cast neg) unit
    obtain ⟨r, t, mpos, same, -⟩ := round_finite .negative (show 0 < (-d).toNat by omega) low
    rw [UnpackedFloat.normalize, Int.compare_eq_lt.mpr neg]
    dsimp only
    rw [same]
    refine ⟨fun nonneg => absurd below (not_lt.mpr nonneg), fun _ => .finite _ _ _, ?_⟩
    intro s zero
    cases zero
  · rw [Int.cast_zero, zero_mul]
    exact isRounding_zero .positive
  · have above : (0 : ℚ) < d * 2 ^ e := mul_pos (by exact_mod_cast pos) unit
    obtain ⟨n, rfl⟩ := Int.eq_ofNat_of_zero_le pos.le
    have positive : 0 < n := by omega
    obtain ⟨r, t, nearest, same⟩ := round_nearest .positive positive e
    obtain ⟨_, _, _, shape, -⟩ := round_finite .positive positive low
    rw [UnpackedFloat.normalize, Int.compare_eq_gt.mpr pos]
    dsimp only
    rw [Int.toNat_natCast]
    refine ⟨fun _ => ?_, fun nonpos => absurd above (not_lt.mpr nonpos), ?_⟩
    · rw [same, Int.cast_natCast]
      exact nearest.roundsTo
    · rw [shape]
      intro s zero
      cases zero

/-! ## Differences of parts -/

/-- A difference is formed on the finer one of two grids, where both numbers are whole multiples. -/
theorem exists_sub_eq_normalize {s t : Sign} {m n : ℕ} {e f : ℤ} (mpos : 0 < m) (npos : 0 < n) :
    ∃ d : ℤ, UnpackedFloat.sub .binary64 (.finite s m e mpos) (.finite t n f npos) =
        UnpackedFloat.normalize .binary64 d (min e f) .positive ∧
      (d : ℚ) * 2 ^ min e f = exact (.finite s m e mpos) - exact (.finite t n f npos) := by
  refine ⟨_, rfl, ?_⟩
  have scaled (s : Sign) (m : ℕ) {e k : ℤ} (le : k ≤ e) :
      ((s.apply (m <<< (e - k).toNat : ℕ) : ℤ) : ℚ) * 2 ^ k = (s.apply m : ℤ) * 2 ^ e := by
    have plain := cast_mul_two_pow_mul m le
    rw [Nat.shiftLeft_eq]
    cases s with
    | positive => exact_mod_cast plain
    | negative =>
        simp only [Sign.apply, Int.cast_neg, Int.cast_natCast, neg_mul]
        rw [plain]
  rw [Int.cast_sub, sub_mul, scaled s m (min_le_left e f), scaled t n (min_le_right e f)]
  rfl

theorem isRounding_sub (left : u.isFinite = true) (right : v.isFinite = true) (first : IsRounded u)
    (second : IsRounded v) : IsRounding (exact u - exact v) (u.sub .binary64 v) := by
  -- Only the difference of two nonzero numbers is rounded at all.
  cases u with
  | notANumber => cases left
  | infinity s => cases left
  | zero s =>
      rw [show exact (.zero s) = 0 from rfl, zero_sub, ← exact_neg]
      cases v with
      | notANumber => cases right
      | infinity t => cases right
      | zero t => cases s <;> cases t <;> exact isRounding_zero _
      | finite t n f npos => exact isRounding_exact rfl second
  | finite s m e mpos =>
      cases v with
      | notANumber => cases right
      | infinity t => cases right
      | zero t =>
          rw [show exact (.zero t) = 0 from rfl, sub_zero]
          exact isRounding_exact rfl first
      | finite t n f npos =>
          obtain ⟨d, same, value⟩ := exists_sub_eq_normalize (s := s) (t := t) (e := e) (f := f)
            mpos npos
          rw [same, ← value]
          exact isRounding_normalize d (le_min first.2.1 second.2.1)

/-- On both sides the same difference is rounded. -/
theorem roundsTo_distance (left : u.isFinite = true) (right : v.isFinite = true)
    (first : IsRounded u) (second : IsRounded v) :
    RoundsTo |exact u - exact v| (u.sub .binary64 v).abs := by
  rcases le_total (exact v) (exact u) with le | le
  · rw [abs_of_nonneg (sub_nonneg.mpr le)]
    exact ((isRounding_sub left right first second).rounds (sub_nonneg.mpr le)).abs
  · rw [abs_of_nonpos (sub_nonpos.mpr le), neg_sub, abs_sub_parts]
    exact ((isRounding_sub right left second first).rounds (sub_nonneg.mpr le)).abs

theorem IsNonpositive.overflowed (nonpos : IsNonpositive u) : IsNonpositive (overflowed u) := by
  cases nonpos with
  | zero s => exact .zero s
  | finite m e pos =>
      rw [Binary64.overflowed]
      split
      · exact .infinite
      · exact .finite m e pos
  | infinite => exact .infinite

theorem IsNonpositive.le (nonpos : IsNonpositive u) (value : HasValue v p) : u.le v = true := by
  cases nonpos <;> cases value <;> rfl

/-! ## Differences of numbers -/

theorem isFinite_of_sub (finite : (x - y).isFinite = true) :
    x.isFinite = true ∧ y.isFinite = true := by
  rw [isFinite_eq, parts_sub] at finite
  rw [isFinite_eq, isFinite_eq]
  generalize parts x = u at *
  generalize parts y = v at *
  cases u with
  | notANumber => cases finite
  | infinity s =>
      cases v with
      | infinity t => cases s <;> cases t <;> cases finite
      | _ => cases finite
  | zero s => cases v <;> first | exact ⟨rfl, rfl⟩ | cases finite
  | finite s m e pos => cases v <;> first | exact ⟨rfl, rfl⟩ | cases finite

theorem isRounded_abs (rounded : IsRounded u) : IsRounded u.abs := by
  cases u <;> exact rounded

theorem parts_abs (x : Float) : parts x.abs = (parts x).abs := by
  rw [abs_eq, parts_ofParts (isRounded_abs (isRounded_parts x)), ← abs_overflowed,
    overflowed_parts]

/-- The exact distance is rounded. -/
theorem holds_distance (left : x.isFinite = true) (right : y.isFinite = true) :
    Holds (parts (x - y).abs) ((|exactValue x - exactValue y| : ℚ) : WithTop ℚ) := by
  rw [parts_abs, parts_sub, abs_overflowed]
  exact .finite (roundsTo_distance left right (isRounded_parts x) (isRounded_parts y))

theorem holds_sub (left : x.isFinite = true) (right : y.isFinite = true)
    (le : exactValue y ≤ exactValue x) :
    Holds (parts (x - y)) ((exactValue x - exactValue y : ℚ) : WithTop ℚ) := by
  rw [parts_sub]
  have rounding := isRounding_sub left right (isRounded_parts x) (isRounded_parts y)
  exact .finite (rounding.rounds (sub_nonneg.mpr le))

/-- A difference that is not positive does not exceed what is not negative. -/
theorem sub_le_of_hasValue (left : x.isFinite = true) (right : y.isFinite = true)
    (le : exactValue x ≤ exactValue y) {z : Float} (value : HasValue (parts z) p) :
    x - y ≤ z := by
  rw [le_iff, parts_sub]
  have rounding := isRounding_sub left right (isRounded_parts x) (isRounded_parts y)
  exact (rounding.nonpos (sub_nonpos.mpr le)).overflowed.le value

/-! ## Equal numbers -/

theorem HasValue.exists_zero (value : HasValue u 0) : ∃ s, u = .zero s := by
  generalize none : (0 : ℚ) = p at value
  cases value with
  | zero s => exact ⟨s, rfl⟩
  | finite m e pos =>
      have positive : (0 : ℚ) < m * 2 ^ e := by positivity
      exact absurd none positive.ne

theorem hasValue_exactValue (finite : x.isFinite = true) (nonneg : 0 ≤ exactValue x) :
    HasValue (parts x) (exactValue x) :=
  hasValue_of_nonneg finite nonneg

theorem isZero_iff_exactValue (finite : x.isFinite = true) : IsZero x ↔ exactValue x = 0 := by
  constructor
  · rintro ⟨s, zero⟩
    rw [exactValue, zero]
    rfl
  · intro none
    have value := hasValue_exactValue finite none.ge
    rw [none] at value
    exact value.exists_zero

theorem exactValue_neg (x : Float) : exactValue (-x) = -exactValue x := by
  rw [exactValue, parts_neg, exact_neg]
  rfl

/-- Finite numbers are equal when their values are. -/
theorem beq_iff_exactValue (left : x.isFinite = true) (right : y.isFinite = true) :
    x == y ↔ exactValue x = exactValue y := by
  have ofPositive {x y : Float} (left : x.isFinite = true) (right : y.isFinite = true)
      (same : exactValue x = exactValue y) (pos : 0 < exactValue x) : x = y := by
    have value := hasValue_exactValue left pos.le
    rw [same] at value pos
    exact eq_of_hasValue value (hasValue_exactValue right pos.le) pos
  rw [beq_iff]
  constructor
  · rintro (⟨-, rfl⟩ | ⟨zero, other⟩)
    · rfl
    · rw [(isZero_iff_exactValue left).mp zero, (isZero_iff_exactValue right).mp other]
  · intro same
    have number := Value.isNaN_eq_false_of_isFinite left
    rcases lt_trichotomy (exactValue x) 0 with neg | none | pos
    · -- The opposite numbers are positive, and held with the same parts.
      have opposite : -x = -y := by
        apply ofPositive ((isFinite_neg x).trans left) ((isFinite_neg y).trans right)
        · rw [exactValue_neg, exactValue_neg, same]
        · rw [exactValue_neg]
          exact neg_pos.mpr neg
      exact .inl ⟨number, by rw [← neg_neg x, opposite, neg_neg]⟩
    · exact .inr ⟨(isZero_iff_exactValue left).mpr none,
        (isZero_iff_exactValue right).mpr (same ▸ none)⟩
    · exact .inl ⟨number, ofPositive left right same pos⟩

theorem isZero_distance_iff (left : x.isFinite = true) (right : y.isFinite = true) :
    IsZero (x - y).abs ↔ x == y := by
  constructor
  · rintro ⟨s, none⟩
    have rounding := isRounding_sub left right (isRounded_parts x) (isRounded_parts y)
    rw [beq_iff_exactValue left right]
    rw [parts_abs, parts_sub] at none
    cases shape : (parts x).sub .binary64 (parts y) with
    | zero t => exact sub_eq_zero.mp (rounding.zero t shape)
    | finite t m e pos =>
        rw [shape, overflowed] at none
        split at none <;> cases none
    | _ =>
        rw [shape] at none
        cases none
  · intro equal
    exact isZero_abs (isZero_sub_of_beq equal left)

end Semblance.Binary64
