import Semblance.Proofs.Binary64.Distance
import Semblance.Proofs.Closeness

/-!
# The linear closeness

Where neither the distance of two numbers nor the upper half of the range overflows, the linear
closeness lies between zero and one. It does not grow with the distance, is one at no distance and
zero beyond the range, and a quotient is only taken where the range has an upper half. All of this
holds of the rounded results.
-/

namespace Semblance

open Binary64 Float.Model

namespace Binary64

variable {x y : Float} {p q : ℚ}

protected theorem le_of_lt (less : x < y) : x ≤ y := by
  rw [lt_iff] at less
  rw [le_iff]
  unfold UnpackedFloat.lt at less
  unfold UnpackedFloat.le
  rw [beq_iff_eq.mp less]
  rfl

theorem exactValue_one : exactValue 1.0 = 1 := hasValue_one.exact_eq

/-- What is left to one is rounded. -/
theorem holds_one_sub (value : HasValue (parts x) p) (le : p ≤ 1) :
    Holds (parts (1.0 - x)) ((1 - p : ℚ) : WithTop ℚ) := by
  have same : exactValue x = p := value.exact_eq
  have holds := holds_sub isFinite_one (isFinite_of_hasValue value)
    (show exactValue x ≤ exactValue 1.0 by rw [same, exactValue_one]; exact le)
  rwa [same, exactValue_one] at holds

theorem div_self_of_hasValue (value : HasValue (parts x) p) (pos : 0 < p) : x / x = 1.0 := by
  have quotient := holds_div value value pos
  rw [div_self pos.ne'] at quotient
  exact eq_of_holds hasValue_one one_pos quotient

theorem HasValue.pos (value : HasValue (parts x) p) (nonzero : ¬ IsZero x) : 0 < p := by
  apply value.nonneg.lt_of_ne
  rintro rfl
  exact nonzero value.exists_zero

/-- A finite number that is not less than one that is not negative is not negative either. -/
theorem exists_hasValue_of_not_lt (finite : x.isFinite = true) (value : HasValue (parts y) q)
    (notLess : ¬ x < y) : ∃ p, HasValue (parts x) p ∧ q ≤ p := by
  rcases le_or_gt 0 (exactValue x) with nonneg | neg
  · have held := hasValue_exactValue finite nonneg
    exact ⟨_, held, not_lt.mp fun less => notLess (lt_of_hasValue held value less)⟩
  · refine absurd ((lt_iff x y).mpr ?_) notLess
    rw [exactValue] at neg
    generalize parts x = u at *
    generalize parts y = v at *
    cases u with
    | finite s m e pos =>
        cases s with
        | negative => cases value <;> rfl
        | positive =>
            have above : (0 : ℚ) < m * 2 ^ e := by positivity
            exact absurd neg (not_lt.mpr above.le)
    | _ => exact absurd neg (lt_irrefl 0)

end Binary64

namespace Closeness

/-! ## The three cases -/

variable {q w : ℚ} {distance reach closeness : Float}

/-- How the closeness of two numbers at the distance `q` comes about. -/
inductive IsLinear (q : ℚ) (distance reach : Float) : Float → Prop where
  | equal (none : q = 0) : IsLinear q distance reach 1.0
  | beyond (pos : 0 < q) (less : reach < distance) : IsLinear q distance reach 0.0
  | within {w : ℚ} (pos : 0 < q) (long : HasValue (parts reach) w) (le : q ≤ w) :
      IsLinear q distance reach (1.0 - distance / reach)

variable {l r min reference max : Float}

theorem isLinear_linear (short : HasValue (parts (r - l).abs) q)
    (spread : (max - reference).isFinite = true) :
    IsLinear q (r - l).abs (max - reference) (linear l r min reference max) := by
  unfold linear
  dsimp only
  by_cases none : (r - l).abs == 0.0
  · rw [if_pos none]
    have zero := (isZero_iff _).mpr none
    rw [isZero_iff_exactValue (isFinite_of_hasValue short)] at zero
    exact .equal (short.exact_eq.symm.trans zero)
  · rw [if_neg none]
    have pos := short.pos fun zero => none ((isZero_iff _).mp zero)
    by_cases less : (r - l).abs > max - reference
    · rw [if_pos less]
      exact .beyond pos less
    · rw [if_neg less]
      obtain ⟨w, long, le⟩ := exists_hasValue_of_not_lt spread short less
      exact .within pos long le

/-- Within the range, the quotient of distance and range lies between zero and one. -/
theorem exists_quotient (short : HasValue (parts distance) q) (long : HasValue (parts reach) w)
    (pos : 0 < q) (le : q ≤ w) : ∃ k, HasValue (parts (distance / reach)) k ∧ k ≤ 1 := by
  have quotient := holds_div short long (pos.trans_le le)
  have one : Holds (parts 1.0) ((1 : ℚ) : WithTop ℚ) := (HasSize.finite hasValue_one).holds
  have nonneg : 0.0 ≤ distance / reach :=
    zero_le_of_holds quotient (WithTop.coe_le_coe.mpr (div_nonneg pos.le (pos.trans_le le).le))
  have atMost : distance / reach ≤ 1.0 :=
    le_of_holds quotient one (WithTop.coe_le_coe.mpr (div_le_one_of_le₀ le (pos.trans_le le).le))
  exact hasValue_one.exists_le nonneg atMost

theorem IsLinear.bounded (short : HasValue (parts distance) q)
    (cases : IsLinear q distance reach closeness) : 0.0 ≤ closeness ∧ closeness ≤ 1.0 := by
  cases cases with
  | equal none => exact ⟨nonneg_one, by decide +kernel⟩
  | beyond pos less => exact ⟨zero_le_zero, nonneg_one⟩
  | within pos long le =>
      obtain ⟨k, value, atMost⟩ := exists_quotient short long pos le
      have rest := holds_one_sub value atMost
      refine ⟨zero_le_of_holds rest (WithTop.coe_le_coe.mpr (sub_nonneg.mpr atMost)), ?_⟩
      exact le_of_holds rest (HasSize.finite hasValue_one).holds
        (WithTop.coe_le_coe.mpr (sub_le_self 1 value.nonneg))

/-- A greater distance makes no greater closeness, in each of the three cases. -/
theorem IsLinear.antitone {p : ℚ} {farther other : Float} (short : HasValue (parts distance) q)
    (long : HasValue (parts farther) p) (le : q ≤ p)
    (near : IsLinear q distance reach closeness) (far : IsLinear p farther reach other) :
    other ≤ closeness := by
  cases near with
  | equal none => exact (far.bounded long).2
  | beyond pos less =>
      cases far with
      | equal none => exact absurd (pos.trans_le le) (not_lt.mpr none.le)
      | beyond _ _ => exact zero_le_zero
      | within _ size within =>
          -- What lies beyond the range does so at every greater distance.
          have shorter := (size.lt_iff short (isRounded_parts _) (isRounded_parts _)).mp
            ((lt_iff reach distance).mp less)
          exact absurd (le.trans within) (not_le.mpr shorter)
  | within pos size within =>
      cases far with
      | equal none => exact absurd (pos.trans_le le) (not_lt.mpr none.le)
      | beyond farPos less => exact ((IsLinear.within pos size within).bounded short).1
      | @within w farPos farSize farWithin =>
          obtain ⟨k, value, atMost⟩ := exists_quotient short farSize pos (le.trans farWithin)
          obtain ⟨h, other, otherAtMost⟩ := exists_quotient long farSize farPos farWithin
          have wPos : 0 < w := farPos.trans_le farWithin
          have quotients : distance / reach ≤ farther / reach :=
            le_of_holds (holds_div short farSize wPos) (holds_div long farSize wPos)
              (WithTop.coe_le_coe.mpr (div_le_div_of_nonneg_right le wPos.le))
          have ordered : k ≤ h := (value.le_iff other (isRounded_parts _) (isRounded_parts _)).mp
            ((le_iff _ _).mp quotients)
          exact le_of_holds (holds_one_sub other otherAtMost) (holds_one_sub value atMost)
            (WithTop.coe_le_coe.mpr (sub_le_sub_left ordered 1))

/-- At the very end of the range nothing is left either. -/
theorem IsLinear.eq_zero (short : HasValue (parts distance) q)
    (cases : IsLinear q distance reach closeness) (pos : 0 < q) (le : reach ≤ distance) :
    closeness = 0.0 := by
  cases cases with
  | equal none => exact absurd none pos.ne'
  | beyond _ less => rfl
  | within _ size within =>
      have atMost := (size.le_iff short (isRounded_parts _) (isRounded_parts _)).mp
        ((le_iff reach distance).mp le)
      have whole : distance = reach := eq_of_hasValue short (le_antisymm atMost within ▸ size) pos
      rw [← whole, div_self_of_hasValue short pos]
      decide +kernel

/-! ## The closeness as a whole -/

/-- The linear closeness with a division of one's own. -/
def linearBy (divide : Float → Float → Float) (l r _min reference max : Float) : Float :=
  let distance := (r - l).abs
  if distance == 0.0 then 1.0
  else
    let reach := max - reference
    if distance > reach then 0.0 else 1.0 - divide distance reach

theorem linearBy_div : linearBy (· / ·) = linear := rfl

/-- What a closeness of `l` and `r` is that falls with their distance, and is bounded by an upper
half of the range from `reference` to `max`. Distances and halves are taken as they are computed or,
in the last two fields, exactly. -/
structure IsBoundedCloseness (f : Float → Float → Float → Float → Float → Float)
    (l r reference max : Float) : Prop where
  bounded : ∀ min, 0.0 ≤ f l r min reference max ∧ f l r min reference max ≤ 1.0
  equal : l == r → ∀ min, f l r min reference max = 1.0
  beyond : (l == r) = false → max - reference < (r - l).abs → ∀ min,
    f l r min reference max = 0.0
  lowerEnd : ∀ min other, f l r min reference max = f l r other reference max
  sides : ∀ l' r' min, (r' - l').abs = (r - l).abs →
    f l' r' min reference max = f l r min reference max
  swap : ∀ min, f r l min reference max = f l r min reference max
  antitone : ∀ l' r' min, (r' - l').isFinite = true → (r - l).abs ≤ (r' - l').abs →
    f l' r' min reference max ≤ f l r min reference max
  beyondExact : (l == r) = false →
    exactValue max - exactValue reference ≤ |exactValue r - exactValue l| → ∀ min,
      f l r min reference max = 0.0
  antitoneExact : ∀ l' r' min, (r' - l').isFinite = true →
    |exactValue r - exactValue l| ≤ |exactValue r' - exactValue l'| →
      f l' r' min reference max ≤ f l r min reference max

theorem exists_hasValue_distance {l r : Float} (apart : (r - l).isFinite = true) :
    ∃ q, HasValue (parts (r - l).abs) q := by
  rw [parts_abs]
  exact ⟨_, hasValue_abs apart⟩

theorem antitone_linear {l r l' r' : Float} (apart : (r - l).isFinite = true)
    (farApart : (r' - l').isFinite = true) (spread : (max - reference).isFinite = true)
    (le : (r - l).abs ≤ (r' - l').abs) :
    linear l' r' min reference max ≤ linear l r min reference max := by
  obtain ⟨q, short⟩ := exists_hasValue_distance apart
  obtain ⟨p, long⟩ := exists_hasValue_distance farApart
  have ordered := (short.le_iff long (isRounded_parts _) (isRounded_parts _)).mp
    ((le_iff _ _).mp le)
  exact (isLinear_linear short spread).antitone short long ordered (isLinear_linear long spread)

/-- A half of the range that is exactly no longer than a distance is not longer when rounded. -/
theorem reach_le_distance (apart : (r - l).isFinite = true)
    (spread : (max - reference).isFinite = true)
    (le : exactValue max - exactValue reference ≤ |exactValue r - exactValue l|) :
    max - reference ≤ (r - l).abs := by
  obtain ⟨q, short⟩ := exists_hasValue_distance apart
  obtain ⟨right, left⟩ := isFinite_of_sub apart
  obtain ⟨upper, lower⟩ := isFinite_of_sub spread
  rcases le_total (exactValue max) (exactValue reference) with none | some
  · exact sub_le_of_hasValue upper lower none short
  · exact le_of_holds (holds_sub upper lower some) (holds_distance right left)
      (WithTop.coe_le_coe.mpr le)

theorem linear_eq_zero (apart : (r - l).isFinite = true)
    (spread : (max - reference).isFinite = true) (other : (l == r) = false)
    (le : max - reference ≤ (r - l).abs) : linear l r min reference max = 0.0 := by
  obtain ⟨q, short⟩ := exists_hasValue_distance apart
  obtain ⟨right, left⟩ := isFinite_of_sub apart
  have pos : 0 < q := by
    apply short.pos
    rw [isZero_distance_iff right left, beq_comm, other]
    exact Bool.false_ne_true
  exact (isLinear_linear short spread).eq_zero short pos le

/-- The division is reached only if the range has an upper half. -/
theorem linearBy_eq_linear (apart : (r - l).isFinite = true)
    (spread : (max - reference).isFinite = true) {divide : Float → Float → Float}
    (agrees : ∀ x y, (y == 0.0) = false → divide x y = x / y) :
    linearBy divide l r min reference max = linear l r min reference max := by
  obtain ⟨q, short⟩ := exists_hasValue_distance apart
  rw [← linearBy_div]
  unfold linearBy
  dsimp only
  by_cases none : (r - l).abs == 0.0
  · rw [if_pos none, if_pos none]
  · rw [if_neg none, if_neg none]
    by_cases less : (r - l).abs > max - reference
    · rw [if_pos less, if_pos less]
    · -- A half that is not less than a distance that is not zero is not zero either.
      obtain ⟨w, long, le⟩ := exists_hasValue_of_not_lt spread short less
      have pos := short.pos fun zero => none ((isZero_iff _).mp zero)
      have nonzero : (max - reference == 0.0) = false := by
        rw [← Bool.not_eq_true, ← isZero_iff, isZero_iff_exactValue spread]
        exact fun zero => (pos.trans_le le).ne' (long.exact_eq.symm.trans zero)
      rw [if_neg less, if_neg less, agrees _ _ nonzero]

/-- Where neither the distance nor the upper half of the range overflows, the linear closeness is
bounded, and it does not matter what a division by zero would give. -/
theorem linear_isBoundedCloseness (apart : (r - l).isFinite = true)
    (spread : (max - reference).isFinite = true) :
    IsBoundedCloseness linear l r reference max ∧
      ∀ divide : Float → Float → Float, (∀ x y, (y == 0.0) = false → divide x y = x / y) →
        ∀ min, linearBy divide l r min reference max = linear l r min reference max := by
  obtain ⟨q, short⟩ := exists_hasValue_distance apart
  obtain ⟨right, left⟩ := isFinite_of_sub apart
  refine ⟨?_, fun divide agrees min => linearBy_eq_linear apart spread agrees⟩
  constructor
  case bounded => exact fun min => (isLinear_linear short spread).bounded short
  case equal => exact fun equal min => linear_of_beq min reference max equal left
  case beyond =>
    intro other less min
    exact linear_eq_zero apart spread other (Binary64.le_of_lt less)
  case lowerEnd => exact fun min other => rfl
  case sides =>
    intro l' r' min same
    unfold linear
    rw [same]
  case swap => exact fun min => linear_comm r l min reference max
  case antitone =>
    intro l' r' min farApart le
    exact antitone_linear apart farApart spread le
  case beyondExact =>
    intro other le min
    exact linear_eq_zero apart spread other (reach_le_distance apart spread le)
  case antitoneExact =>
    intro l' r' min farApart le
    obtain ⟨right', left'⟩ := isFinite_of_sub farApart
    exact antitone_linear apart farApart spread
      (le_of_holds (holds_distance right left) (holds_distance right' left')
        (WithTop.coe_le_coe.mpr le))

/-- A distance that is rounded beyond the range, one within it, and a range without an upper
half. -/
theorem linear_isBoundedCloseness_rounded :
    ((0.4 : Float) - 0.1).isFinite = true ∧ ((0.3 : Float) - 0.0).isFinite = true ∧
      linear 0.1 0.4 9.0 0.0 0.3 = 0.0 ∧
      linear 0.1 0.4 9.0 0.0 0.3 ≤ linear 0.2 0.1 (-9.0) 0.0 0.3 ∧
      linear (-0.0) 0.0 0.0 10.0 (-10.0) = 1.0 ∧ linear 1.0 2.0 0.0 10.0 (-10.0) = 0.0 := by
  have finite : ((0.4 : Float) - 0.1).isFinite = true := by decide +kernel
  have half : ((0.3 : Float) - 0.0).isFinite = true := by decide +kernel
  have near := (linear_isBoundedCloseness (show ((0.1 : Float) - 0.2).isFinite = true by
    decide +kernel) half).1
  have far := (linear_isBoundedCloseness finite half).1
  have none := (linear_isBoundedCloseness (show ((0.0 : Float) - -0.0).isFinite = true by
    decide +kernel) (show ((-10.0 : Float) - 10.0).isFinite = true by decide +kernel)).1
  have empty := (linear_isBoundedCloseness (show ((2.0 : Float) - 1.0).isFinite = true by
    decide +kernel) (show ((-10.0 : Float) - 10.0).isFinite = true by decide +kernel)).1
  refine ⟨finite, half, far.beyond (by decide +kernel) (by decide +kernel) 9.0, ?_,
    none.equal (by decide +kernel) 0.0,
    empty.beyond (by decide +kernel) (by decide +kernel) 0.0⟩
  rw [near.lowerEnd (-9.0) 9.0]
  exact near.antitone 0.1 0.4 9.0 finite (by decide +kernel)

end Closeness

end Semblance
