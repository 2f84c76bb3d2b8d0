import Semblance.Proofs.Binary64.Scaling
import Semblance.Proofs.Binary64.Sum

/-!
# Arithmetic keeps the order

For numbers that are not negative, the results of additions, multiplications and divisions are the
exact ones, rounded, and what is too large becomes infinite. Each of these steps keeps the order, so
sums, multiples and quotients of numbers in order are in order.
-/

namespace Semblance.Binary64

open Float.Model Float.Model.UnpackedFloat

/-! ## Exact values -/

/-- The value of parts that are finite and not negative. -/
inductive HasValue : UnpackedFloat → ℚ → Prop where
  | zero (s : Sign) : HasValue (.zero s) 0
  | finite (m : ℕ) (e : ℤ) (pos : 0 < m) : HasValue (.finite .positive m e pos) (m * 2 ^ e)

variable {u v : UnpackedFloat} {p q : ℚ}

theorem HasValue.nonneg (value : HasValue u p) : 0 ≤ p := by
  cases value with
  | zero s => exact le_rfl
  | finite m e pos => positivity

/-- A greater exponent makes a greater number, because the mantissas are full. -/
theorem lt_of_exponent_lt {m n : ℕ} {e f : ℤ} {mpos : 0 < m} {npos : 0 < n}
    (left : IsRounded (.finite .positive m e mpos))
    (right : IsRounded (.finite .positive n f npos)) (less : e < f) :
    (m : ℚ) * 2 ^ e < n * 2 ^ f := by
  obtain ⟨short, low, -⟩ := left
  obtain ⟨-, -, full⟩ := right
  have short : (m : ℚ) < 2 ^ 53 := by exact_mod_cast short
  have full : (2 : ℚ) ^ 52 ≤ n := by exact_mod_cast full.resolve_right (by omega)
  calc (m : ℚ) * 2 ^ e < 2 ^ 53 * 2 ^ e := by gcongr
    _ ≤ 2 ^ 52 * 2 ^ f := carry_le less
    _ ≤ n * 2 ^ f := by gcongr

theorem finite_le_iff {m n : ℕ} {e f : ℤ} {mpos : 0 < m} {npos : 0 < n}
    (left : IsRounded (.finite .positive m e mpos))
    (right : IsRounded (.finite .positive n f npos)) :
    UnpackedFloat.le (.finite .positive m e mpos) (.finite .positive n f npos) = true ↔
      (m : ℚ) * 2 ^ e ≤ n * 2 ^ f := by
  change ((compare e f).then (compare m n)).isLE = true ↔ _
  rcases Int.lt_trichotomy e f with less | rfl | greater
  · rw [Int.compare_eq_lt.mpr less]
    exact iff_of_true rfl (lt_of_exponent_lt left right less).le
  · rw [Int.compare_eq_eq.mpr rfl, mul_le_mul_iff_left₀ (two_zpow_pos e), Nat.cast_le]
    exact Nat.isLE_compare
  · rw [Int.compare_eq_gt.mpr greater]
    exact iff_of_false Bool.false_ne_true (not_le.mpr (lt_of_exponent_lt right left greater))

theorem HasValue.le_iff (left : HasValue u p) (right : HasValue v q) (first : IsRounded u)
    (second : IsRounded v) : u.le v = true ↔ p ≤ q := by
  cases left with
  | zero s =>
      cases right with
      | zero t => exact iff_of_true rfl le_rfl
      | finite n f npos => exact iff_of_true rfl (by positivity)
  | finite m e mpos =>
      have positive : (0 : ℚ) < m * 2 ^ e := by positivity
      cases right with
      | zero t => exact iff_of_false Bool.false_ne_true (not_le.mpr positive)
      | finite n f npos => exact finite_le_iff first second

/-- Numbers that are too large become infinite, and with each of them all greater ones. -/
theorem HasValue.overflowed_le (left : HasValue u p) (right : HasValue v q) (first : IsRounded u)
    (second : IsRounded v) (le : p ≤ q) : (overflowed u).le (overflowed v) = true := by
  have ordered := (left.le_iff right first second).mpr le
  cases left with
  | zero s =>
      cases right with
      | zero t => rfl
      | finite n f npos =>
          dsimp only [overflowed]
          split <;> rfl
  | finite m e mpos =>
      cases right with
      | zero t => cases ordered
      | finite n f npos =>
          have exponents : e ≤ f := by
            by_contra greater
            exact absurd (lt_of_exponent_lt second first (by omega)) (not_lt.mpr le)
          rw [overflowed, overflowed]
          by_cases large : 971 < f
          · rw [if_pos large]
            split <;> rfl
          · rw [if_neg large, if_neg (by omega)]
            exact ordered

/-! ## Rounded results -/

/-- Parts that an exact result is rounded to. -/
def RoundsTo (p : ℚ) (u : UnpackedFloat) : Prop :=
  IsRounded u ∧ ∃ r t, IsNearest p r t ∧ HasValue u (r * 2 ^ t)

theorem IsNearest.roundsTo {r : ℕ} {t : ℤ} (nearest : IsNearest p r t) :
    RoundsTo p (ofNearest .positive r t) := by
  refine ⟨nearest.isRounded_ofNearest .positive, r, t, nearest, ?_⟩
  unfold ofNearest
  split
  · rename_i zero
    rw [zero, Nat.cast_zero, zero_mul]
    exact .zero .positive
  · split
    · rename_i carry
      have same : (r : ℚ) * 2 ^ t = (2 ^ 52 : ℕ) * 2 ^ (t + 1) := by
        rw [carry, zpow_add_one₀ two_ne_zero]
        push_cast
        ring
      rw [same]
      exact .finite _ _ _
    · exact .finite _ _ _

/-- What needs no rounding stays as it is. -/
theorem HasValue.roundsTo (value : HasValue u p) (rounded : IsRounded u) : RoundsTo p u := by
  refine ⟨rounded, ?_⟩
  cases value with
  | zero s =>
      refine ⟨0, -1074, ⟨le_rfl, by positivity, .inr rfl, by norm_num, by norm_num⟩, ?_⟩
      rw [Nat.cast_zero, zero_mul]
      exact .zero s
  | finite m e pos =>
      obtain ⟨short, low, full⟩ := rounded
      have unit : (0 : ℚ) < 2 ^ e := two_zpow_pos e
      have unchanged : (m : ℚ) * 2 ^ e / 2 ^ e - m = 0 := by
        field_simp
        ring
      refine ⟨m, e, ⟨low, ?_, ?_, ?_, ?_⟩, .finite m e pos⟩
      · have short : (m : ℚ) < 2 ^ 53 := by exact_mod_cast short
        gcongr
      · refine full.imp_left fun full => ?_
        have full : (2 : ℚ) ^ 52 ≤ m := by exact_mod_cast full
        gcongr
      · rw [unchanged]
        norm_num
      · rw [unchanged]
        norm_num

theorem RoundsTo.overflowed_le (left : RoundsTo p u) (right : RoundsTo q v) (le : p ≤ q) :
    (overflowed u).le (overflowed v) = true := by
  obtain ⟨first, r, t, nearest, value⟩ := left
  obtain ⟨second, k, w, other, otherValue⟩ := right
  exact value.overflowed_le otherValue first second (nearest.mono other le)

/-! ## Sums, products and quotients of parts -/

/-- A sum is formed on the finer one of two grids, where both numbers are whole multiples. -/
theorem add_positive_eq {m n : ℕ} {e f : ℤ} (mpos : 0 < m) (npos : 0 < n) :
    UnpackedFloat.add .binary64 (.finite .positive m e mpos) (.finite .positive n f npos) =
      UnpackedFloat.round .binary64 .positive
        (m * 2 ^ (e - min e f).toNat + n * 2 ^ (f - min e f).toNat) (min e f) := by
  rw [UnpackedFloat.add]
  dsimp only [decreaseExponent, Sign.apply]
  rw [Nat.shiftLeft_eq, Nat.shiftLeft_eq, ← Nat.cast_add, UnpackedFloat.normalize]
  have pos : 0 < m * 2 ^ (e - min e f).toNat := Nat.mul_pos mpos (Nat.two_pow_pos _)
  rw [Int.compare_eq_gt.mpr (by omega)]
  rfl

theorem HasValue.add (left : HasValue u p) (right : HasValue v q) (first : IsRounded u)
    (second : IsRounded v) : RoundsTo (p + q) (u.add .binary64 v) := by
  cases left with
  | zero s =>
      rw [zero_add]
      cases right with
      | zero t =>
          have value : HasValue (UnpackedFloat.add .binary64 (.zero s) (.zero t)) 0 := by
            cases s <;> cases t <;> exact .zero _
          exact value.roundsTo (isRounded_add first second)
      | finite n f npos => exact (HasValue.finite n f npos).roundsTo second
  | finite m e mpos =>
      cases right with
      | zero t =>
          rw [add_zero]
          exact (HasValue.finite m e mpos).roundsTo first
      | finite n f npos =>
          have pos : 0 < m * 2 ^ (e - min e f).toNat := Nat.mul_pos mpos (Nat.two_pow_pos _)
          obtain ⟨r, t, nearest, same⟩ := round_nearest .positive
            (Nat.add_pos_left pos (n * 2 ^ (f - min e f).toNat)) (min e f)
          rw [Nat.cast_add, add_mul, cast_mul_two_pow_mul m (min_le_left e f),
            cast_mul_two_pow_mul n (min_le_right e f)] at nearest
          rw [add_positive_eq mpos npos, same]
          exact nearest.roundsTo

theorem HasValue.mul (left : HasValue u p) (right : HasValue v q) (first : IsRounded u)
    (second : IsRounded v) : RoundsTo (p * q) (u.mul .binary64 v) := by
  cases left with
  | zero s =>
      rw [zero_mul]
      cases right with
      | zero t => exact (HasValue.zero _).roundsTo trivial
      | finite n f npos => exact (HasValue.zero _).roundsTo trivial
  | finite m e mpos =>
      cases right with
      | zero t =>
          rw [mul_zero]
          exact (HasValue.zero _).roundsTo trivial
      | finite n f npos =>
          obtain ⟨-, low, full⟩ := first
          obtain ⟨-, otherLow, otherFull⟩ := second
          -- Unless both mantissas may be short, the product has more bits than are kept.
          have below : e + f ≤ max ((m * n).log2 + (e + f) - 52) (-1074) := by
            by_cases least : e = -1074 ∧ f = -1074
            · omega
            · have wide : 2 ^ 52 ≤ m * n := by
                rcases not_and_or.mp least with normal | normal
                · exact (full.resolve_right normal).trans (Nat.le_mul_of_pos_right m npos)
                · exact (otherFull.resolve_right normal).trans (Nat.le_mul_of_pos_left n mpos)
              have bits : 52 ≤ (m * n).log2 := (Nat.le_log2 (by omega)).mpr wide
              omega
          obtain ⟨r, t, nearest, same⟩ :=
            roundWithAccuracy_nearest .positive (.exact (m * n)) below
          have value : ((m * n : ℕ) : ℚ) * 2 ^ (e + f) = m * 2 ^ e * (n * 2 ^ f) := by
            rw [zpow_add₀ two_ne_zero]
            push_cast
            ring
          rw [value] at nearest
          change RoundsTo _ (roundWithAccuracy .binary64 .positive (m * n) (e + f) .exact)
          rw [same]
          exact nearest.roundsTo

/-- A quotient is formed with as many bits as are kept, and one more where the division leaves
it. -/
theorem div_positive_eq {m n : ℕ} {e f : ℤ} (mpos : 0 < m) (npos : 0 < n) :
    ∃ k, k ≤ e - f ∧ k ≤ max (m.log2 + e - (n.log2 + f) - 53) (-1074) ∧
      UnpackedFloat.div .binary64 (.finite .positive m e mpos) (.finite .positive n f npos) =
        roundWithAccuracy .binary64 .positive (m * 2 ^ (e - f - k).toNat / n) k
          (accuracyOfFraction (m * 2 ^ (e - f - k).toNat % n) n) := by
  refine ⟨min (e - f) (max (m.log2 + e - (n.log2 + f) - 53) (-1074)), by omega, by omega, ?_⟩
  have target : Format.binary64.targetExponent (totalExponent m e - totalExponent n f) =
      max (m.log2 + e - (n.log2 + f) - 53) (-1074) := by
    change max ((m.log2 : ℤ) + 1 + e - (n.log2 + 1 + f) - 53) (-1074) = _
    omega
  rw [UnpackedFloat.div, divCore, target, Nat.shiftLeft_eq]
  rfl

/-- A dividend that is longer by 53 bits leaves a quotient of 53 bits. -/
theorem le_log2_quotient {m n i : ℕ} (mpos : 0 < m) (npos : 0 < n)
    (longer : n.log2 + 53 ≤ m.log2 + i) : 52 ≤ (m * 2 ^ i / n).log2 := by
  have wide : 2 ^ 52 ≤ m * 2 ^ i / n := by
    rw [Nat.le_div_iff_mul_le npos]
    calc 2 ^ 52 * n ≤ 2 ^ 52 * 2 ^ (n.log2 + 1) := Nat.mul_le_mul_left _ Nat.lt_log2_self.le
      _ = 2 ^ (n.log2 + 53) := by rw [← Nat.pow_add]; congr 1; omega
      _ ≤ 2 ^ (m.log2 + i) := Nat.pow_le_pow_right two_pos longer
      _ = 2 ^ m.log2 * 2 ^ i := Nat.pow_add _ _ _
      _ ≤ m * 2 ^ i := Nat.mul_le_mul_right _ (Nat.log2_self_le mpos.ne')
  exact (Nat.le_log2 (by omega)).mpr wide

theorem HasValue.div (left : HasValue u p) (right : HasValue v q) (nonzero : 0 < q) :
    RoundsTo (p / q) (u.div .binary64 v) := by
  cases right with
  | zero t => exact absurd nonzero (lt_irrefl 0)
  | finite n f npos =>
      cases left with
      | zero s =>
          rw [zero_div]
          exact (HasValue.zero _).roundsTo trivial
      | finite m e mpos =>
          obtain ⟨k, le, target, same⟩ := div_positive_eq (e := e) (f := f) mpos npos
          have below : k ≤ max ((m * 2 ^ (e - f - k).toNat / n).log2 + k - 52) (-1074) := by
            by_cases least : k ≤ -1074
            · omega
            · have bits := le_log2_quotient mpos npos
                (show n.log2 + 53 ≤ m.log2 + (e - f - k).toNat by omega)
              omega
          obtain ⟨r, t, nearest, rounded⟩ :=
            roundWithAccuracy_nearest .positive (standsFor_quotient _ npos) below
          rw [div_mul_eq_mul_div, cast_mul_two_pow_mul m le, zpow_sub₀ two_ne_zero] at nearest
          have value : (m : ℚ) * (2 ^ e / 2 ^ f) / n = m * 2 ^ e / (n * 2 ^ f) := by
            field_simp
          rw [value] at nearest
          rw [same, rounded]
          exact nearest.roundsTo

/-! ## Infinite results -/

/-- The value of parts that are not negative; the infinite one is greater than all others. -/
inductive HasSize : UnpackedFloat → WithTop ℚ → Prop where
  | infinite : HasSize (.infinity .positive) ⊤
  | finite {u : UnpackedFloat} {p : ℚ} : HasValue u p → HasSize u p

/-- The parts that hold an exact result, rounded. -/
inductive Holds : UnpackedFloat → WithTop ℚ → Prop where
  | infinite : Holds (.infinity .positive) ⊤
  | finite {u : UnpackedFloat} {p : ℚ} : RoundsTo p u → Holds (overflowed u) p

variable {s t : WithTop ℚ}

theorem HasValue.le_infinite (value : HasValue u p) : u.le (.infinity .positive) = true := by
  cases value <;> rfl

theorem HasValue.overflowed_le_infinite (value : HasValue u p) :
    (overflowed u).le (.infinity .positive) = true := by
  cases value with
  | zero s => rfl
  | finite m e pos =>
      dsimp only [overflowed]
      split <;> rfl

theorem HasValue.not_infinite_le (value : HasValue u p) :
    UnpackedFloat.le (.infinity .positive) u = false := by
  cases value <;> rfl

theorem HasSize.le_iff (left : HasSize u s) (right : HasSize v t) (first : IsRounded u)
    (second : IsRounded v) : u.le v = true ↔ s ≤ t := by
  cases left with
  | infinite =>
      cases right with
      | infinite => exact iff_of_true rfl le_rfl
      | finite value =>
          rw [value.not_infinite_le]
          exact iff_of_false Bool.false_ne_true (not_le.mpr (WithTop.coe_lt_top _))
  | finite value =>
      cases right with
      | infinite => exact iff_of_true value.le_infinite le_top
      | finite other =>
          rw [WithTop.coe_le_coe]
          exact value.le_iff other first second

/-- What is not less than parts that are not negative is not negative. -/
theorem HasSize.exists_of_le (left : HasSize u s) (le : u.le v = true) : ∃ t, HasSize v t := by
  cases v with
  | notANumber => cases left with
    | infinite => cases le
    | finite value => cases value <;> cases le
  | infinity sign => cases sign with
    | positive => exact ⟨⊤, .infinite⟩
    | negative => cases left with
      | infinite => cases le
      | finite value => cases value <;> cases le
  | zero sign => exact ⟨(0 : ℚ), .finite (.zero sign)⟩
  | finite sign m e pos => cases sign with
    | positive => exact ⟨(m * 2 ^ e : ℚ), .finite (.finite m e pos)⟩
    | negative => cases left with
      | infinite => cases le
      | finite value => cases value <;> cases le

/-- What does not exceed a finite number is finite. -/
theorem HasSize.exists_value_of_le (size : HasSize u s) (le : s ≤ (q : WithTop ℚ)) :
    ∃ p, HasValue u p ∧ p ≤ q := by
  cases size with
  | infinite => exact absurd le (not_le.mpr (WithTop.coe_lt_top q))
  | finite value => exact ⟨_, value, WithTop.coe_le_coe.mp le⟩

theorem Holds.mono (left : Holds u s) (right : Holds v t) (le : s ≤ t) : u.le v = true := by
  cases left with
  | infinite =>
      cases right with
      | infinite => rfl
      | finite rounds => exact absurd le (not_le.mpr (WithTop.coe_lt_top _))
  | finite rounds =>
      cases right with
      | infinite =>
          obtain ⟨-, r, e, -, value⟩ := rounds
          exact value.overflowed_le_infinite
      | finite other => exact rounds.overflowed_le other (WithTop.coe_le_coe.mp le)

/-! ## Numbers -/

theorem exists_hasSize {x : Float} (nonneg : 0.0 ≤ x) : ∃ s, HasSize (parts x) s :=
  (HasSize.finite (.zero .positive)).exists_of_le ((le_iff 0.0 x).mp nonneg)

/-- A number is not changed by rounding. -/
theorem HasSize.holds {x : Float} (size : HasSize (parts x) s) : Holds (parts x) s := by
  have fits := overflowed_parts x
  have rounded := isRounded_parts x
  generalize parts x = u at *
  cases size with
  | infinite => exact .infinite
  | finite value =>
      rw [← fits]
      exact .finite (value.roundsTo rounded)

theorem le_of_holds {x y : Float} (left : Holds (parts x) s) (right : Holds (parts y) t)
    (le : s ≤ t) : x ≤ y :=
  (le_iff x y).mpr (left.mono right le)

theorem HasSize.nonneg (size : HasSize u s) : 0 ≤ s := by
  cases size with
  | infinite => exact le_top
  | finite value => exact WithTop.coe_le_coe.mpr value.nonneg

theorem zero_le_of_holds {x : Float} (holds : Holds (parts x) s) (nonneg : 0 ≤ s) : 0.0 ≤ x :=
  le_of_holds (.finite ((HasValue.zero .positive).roundsTo trivial)) holds nonneg

/-- The exact sum is rounded; with an infinite term it is infinite. -/
theorem holds_add {x y : Float} (left : HasSize (parts x) s) (right : HasSize (parts y) t) :
    Holds (parts (x + y)) (s + t) := by
  have first := isRounded_parts x
  have second := isRounded_parts y
  rw [parts_add]
  generalize parts x = u at *
  generalize parts y = v at *
  cases left with
  | infinite =>
      cases right with
      | infinite => exact .infinite
      | finite value =>
          rw [WithTop.top_add]
          cases value <;> exact .infinite
  | finite value =>
      cases right with
      | infinite =>
          rw [WithTop.add_top]
          cases value <;> exact .infinite
      | finite other => exact .finite (value.add other first second)

/-- The exact product is rounded; with an infinite factor it is infinite. -/
theorem holds_mul {x y : Float} (left : HasSize (parts x) s) (right : HasValue (parts y) q)
    (pos : 0 < q) : Holds (parts (x * y)) (s.map (· * q)) := by
  have first := isRounded_parts x
  have second := isRounded_parts y
  rw [mul_eq]
  generalize parts x = u at *
  generalize parts y = v at *
  cases left with
  | infinite =>
      cases right with
      | zero sign => exact absurd pos (lt_irrefl 0)
      | finite n f npos =>
          have infinite : parts (ofParts (.infinity .positive)) = .infinity .positive :=
            parts_ofParts trivial
          change Holds (parts (ofParts (.infinity .positive))) ⊤
          rw [infinite]
          exact .infinite
  | finite value =>
      have rounds := value.mul right first second
      rw [parts_ofParts rounds.1]
      exact .finite rounds

/-- The exact quotient is rounded. -/
theorem holds_div {x y : Float} (left : HasValue (parts x) p) (right : HasValue (parts y) q)
    (pos : 0 < q) : Holds (parts (x / y)) ((p / q : ℚ) : WithTop ℚ) := by
  have rounds := left.div right pos
  change Holds (parts (ofParts ((parts x).div .binary64 (parts y)))) _
  rw [parts_ofParts rounds.1]
  exact .finite rounds

theorem hasValue_one : HasValue (parts 1.0) 1 := by
  rw [parts_one]
  have value := HasValue.finite (2 ^ 52) (-52) (by decide)
  norm_num at value
  exact value

/-! ## Inequalities -/

variable {x y a b : Float}

theorem HasSize.exists_ge (size : HasSize (parts x) s) (le : x ≤ y) :
    ∃ t, HasSize (parts y) t ∧ s ≤ t := by
  rw [Binary64.le_iff] at le
  obtain ⟨t, other⟩ := size.exists_of_le le
  exact ⟨t, other, (size.le_iff other (isRounded_parts x) (isRounded_parts y)).mp le⟩

/-- What lies between zero and a finite number is finite. -/
theorem HasValue.exists_le (value : HasValue (parts y) q) (nonneg : 0.0 ≤ x) (le : x ≤ y) :
    ∃ p, HasValue (parts x) p ∧ p ≤ q := by
  obtain ⟨t, size⟩ := exists_hasSize nonneg
  have below : t ≤ q :=
    (size.le_iff (.finite value) (isRounded_parts x) (isRounded_parts y)).mp
      ((Binary64.le_iff x y).mp le)
  exact size.exists_value_of_le below

theorem add_mono (nonneg : 0.0 ≤ x) (le : x ≤ y) (termNonneg : 0.0 ≤ a) (termLe : a ≤ b) :
    0.0 ≤ x + a ∧ x + a ≤ y + b := by
  obtain ⟨r, sizeX⟩ := exists_hasSize nonneg
  obtain ⟨s, sizeY, ordered⟩ := sizeX.exists_ge le
  obtain ⟨k, sizeA⟩ := exists_hasSize termNonneg
  obtain ⟨t, sizeB, termOrdered⟩ := sizeA.exists_ge termLe
  have lower := holds_add sizeX sizeA
  have upper := holds_add sizeY sizeB
  exact ⟨zero_le_of_holds lower (add_nonneg sizeX.nonneg sizeA.nonneg),
    le_of_holds lower upper (add_le_add ordered termOrdered)⟩

/-- A term that is not negative makes no number smaller. -/
theorem le_add (nonneg : 0.0 ≤ x) (le : x ≤ y) (termNonneg : 0.0 ≤ b) : x ≤ y + b := by
  obtain ⟨r, sizeX⟩ := exists_hasSize nonneg
  obtain ⟨s, sizeY, ordered⟩ := sizeX.exists_ge le
  obtain ⟨t, sizeB⟩ := exists_hasSize termNonneg
  exact le_of_holds sizeX.holds (holds_add sizeY sizeB)
    (le_add_of_le_of_nonneg ordered sizeB.nonneg)

theorem foldl_add_nonneg {terms : List Float} (nonneg : 0.0 ≤ x)
    (each : ∀ y ∈ terms, 0.0 ≤ y) : 0.0 ≤ terms.foldl (· + ·) x := by
  induction terms generalizing x with
  | nil => exact nonneg
  | cons y rest ih =>
      obtain ⟨first, others⟩ := List.forall_mem_cons.mp each
      exact ih (le_add zero_le_zero nonneg first) others

/-- A factor from one on keeps the order. -/
theorem mul_mono {factor : Float} (nonneg : 0.0 ≤ x) (le : x ≤ y)
    (finite : factor.isFinite = true) (large : 1.0 ≤ factor) :
    0.0 ≤ x * factor ∧ x * factor ≤ y * factor := by
  obtain ⟨s, sizeX⟩ := exists_hasSize nonneg
  obtain ⟨t, sizeY, ordered⟩ := sizeX.exists_ge le
  obtain ⟨m, e, pos, shape, -, -⟩ := parts_of_one_le finite large
  have value : HasValue (parts factor) (m * 2 ^ e) := by
    rw [shape]
    exact .finite m e pos
  have positive : (0 : ℚ) < m * 2 ^ e := by positivity
  have scale : Monotone fun p : ℚ => p * (m * 2 ^ e) :=
    fun _ _ less => mul_le_mul_of_nonneg_right less positive.le
  have lower := holds_mul sizeX value positive
  have upper := holds_mul sizeY value positive
  exact ⟨(zero_lt_mul_iff nonneg finite large).1,
    le_of_holds lower upper (WithTop.monotone_map_iff.mpr scale ordered)⟩

theorem div_eq (x y : Float) : x / y = ofParts ((parts x).div .binary64 (parts y)) := rfl

theorem isZero_ofParts (sign : Sign) : IsZero (ofParts (.zero sign)) :=
  ⟨sign, parts_ofParts trivial⟩

theorem isFinite_of_isZero (zero : IsZero x) : x.isFinite = true := by
  obtain ⟨sign, zero⟩ := zero
  rw [isFinite_eq, zero]
  rfl

/-- A finite number is nothing beside an infinite one, and other numbers have no such quotient. -/
theorem div_infinite (x : Float) (infinite : parts y = .infinity .positive) :
    (x / y).isFinite = x.isFinite ∧ (x.isFinite = true → IsZero (x / y)) := by
  rw [div_eq, infinite, isFinite_eq x]
  cases parts x with
  | notANumber => exact ⟨rfl, nofun⟩
  | infinity sign => cases sign <;> exact ⟨rfl, nofun⟩
  | zero sign =>
      have vanishes : IsZero (ofParts (.zero (sign / .positive))) := isZero_ofParts _
      exact ⟨isFinite_of_isZero vanishes, fun _ => vanishes⟩
  | finite sign m e pos =>
      have vanishes : IsZero (ofParts (.zero (sign / .positive))) := isZero_ofParts _
      exact ⟨isFinite_of_isZero vanishes, fun _ => vanishes⟩

/-- The quotient of two numbers in order lies between zero and one, unless it is no number. -/
theorem div_le_one (nonneg : 0.0 ≤ x) (le : x ≤ y) (positive : 0.0 < y)
    (finite : (x / y).isFinite = true) : 0.0 ≤ x / y ∧ x / y ≤ 1.0 := by
  have one : Holds (parts 1.0) ((1 : ℚ) : WithTop ℚ) :=
    .finite (hasValue_one.roundsTo (isRounded_parts 1.0))
  rcases (zero_lt_iff y).mp positive with infinite | ⟨n, f, npos, shape⟩
  · obtain ⟨same, vanishes⟩ := div_infinite x infinite
    obtain ⟨sign, zero⟩ := vanishes (same.symm.trans finite)
    rw [le_iff, le_iff, zero]
    exact ⟨rfl, rfl⟩
  · have divisor : HasValue (parts y) (n * 2 ^ f) := by
      rw [shape]
      exact .finite n f npos
    have divisorPos : (0 : ℚ) < n * 2 ^ f := by positivity
    obtain ⟨p, dividend, less⟩ := divisor.exists_le nonneg le
    have quotient := holds_div dividend divisor divisorPos
    have atLeast : 0 ≤ p / (n * 2 ^ f) := div_nonneg dividend.nonneg divisorPos.le
    have atMost : p / (n * 2 ^ f) ≤ 1 := (div_le_one₀ divisorPos).mpr less
    exact ⟨zero_le_of_holds quotient (WithTop.coe_le_coe.mpr atLeast),
      le_of_holds quotient one (WithTop.coe_le_coe.mpr atMost)⟩

end Semblance.Binary64
