import Semblance.Matcher
import Semblance.Proofs.Binary64.Conversion

/-!
# Literal sets and equality

Two primitive values have one key exactly when they are equal, so that a set which compares keys
answers what a comparison with each of its literals would.
-/

namespace Semblance

open Binary64

namespace LiteralKey

theorem numberBits_of_isZero {x : Float} (zero : IsZero x) : numberBits x = (0.0 : Float).toBits :=
  if_pos ((isZero_iff x).mp zero)

theorem numberBits_of_not_isZero {x : Float} (nonzero : ¬IsZero x) : numberBits x = x.toBits :=
  if_neg (mt (isZero_iff x).mpr nonzero)

theorem toBits_ne_of_not_isZero {x : Float} (nonzero : ¬IsZero x) :
    x.toBits ≠ (0.0 : Float).toBits := by
  intro same
  rw [Float.toBits_inj] at same
  subst same
  exact nonzero ⟨.positive, parts_zero⟩

/-- Numbers have the same bits, with one zero for both, exactly when they are equal. -/
theorem numberBits_eq_iff {x y : Float} (number : x.isNaN = false) :
    numberBits x = numberBits y ↔ x == y := by
  by_cases xZero : IsZero x <;> by_cases yZero : IsZero y
  · rw [numberBits_of_isZero xZero, numberBits_of_isZero yZero]
    exact iff_of_true rfl ((beq_iff x y).mpr (.inr ⟨xZero, yZero⟩))
  · rw [numberBits_of_isZero xZero, numberBits_of_not_isZero yZero]
    refine iff_of_false (toBits_ne_of_not_isZero yZero).symm fun equal => ?_
    exact yZero ((isZero_iff_of_beq equal).mp xZero)
  · rw [numberBits_of_not_isZero xZero, numberBits_of_isZero yZero]
    refine iff_of_false (toBits_ne_of_not_isZero xZero) fun equal => ?_
    exact xZero ((isZero_iff_of_beq equal).mpr yZero)
  · rw [numberBits_of_not_isZero xZero, numberBits_of_not_isZero yZero, Float.toBits_inj,
      beq_iff]
    constructor
    · intro same
      exact .inl ⟨number, same⟩
    · rintro (⟨-, same⟩ | ⟨zero, -⟩)
      · exact same
      · exact absurd zero xZero

/-- A value has the key of a primitive value exactly when the two are equal. -/
theorem of?_eq_iff {a : Value} {key : LiteralKey} (has : of? a = some key) (v : Value) :
    of? v = some key ↔ a.strictEq v = true := by
  rw [← has]
  -- Values of different kinds have different keys, and are never equal.
  cases a with
  | null => cases v <;> simp [of?, Value.strictEq]
  | bool b =>
      cases v with
      | bool c =>
          rw [Value.strictEq, beq_iff_eq]
          simp only [of?, Option.some.injEq, bool.injEq, eq_comm]
      | _ => simp [of?, Value.strictEq]
  | number n =>
      cases v with
      | number m =>
          rw [Value.strictEq, ← numberBits_eq_iff (isNaN_toFloat n)]
          simp only [of?, Option.some.injEq, number.injEq, eq_comm]
      | _ => simp [of?, Value.strictEq]
  | string s =>
      cases v with
      | string t =>
          rw [Value.strictEq, beq_iff_eq]
          simp only [of?, Option.some.injEq, string.injEq, eq_comm]
      | _ => simp [of?, Value.strictEq]
  | array items => exact absurd has nofun
  | object entries => exact absurd has nofun

end LiteralKey

namespace LiteralSet

theorem contains_iff {s : LiteralSet} {v : Value} :
    s.contains v = true ↔ ∃ key ∈ s.members, LiteralKey.of? v = some key := by
  unfold contains
  cases h : LiteralKey.of? v with
  | none => simp
  | some key => simp

theorem mem_foldl_insert {s : LiteralSet} {values : List Value} {key : LiteralKey} :
    key ∈ (values.foldl insert s).members ↔
      key ∈ s.members ∨ ∃ a ∈ values, LiteralKey.of? a = some key := by
  induction values generalizing s with
  | nil => simp
  | cons a rest ih =>
      rw [List.foldl_cons, ih, mem_insert]
      simp only [List.mem_cons, exists_eq_or_imp]
      rw [or_comm (a := LiteralKey.of? a = some key), or_assoc]

theorem mem_ofList {values : List Value} {key : LiteralKey} :
    key ∈ (ofList values).members ↔ ∃ a ∈ values, LiteralKey.of? a = some key := by
  rw [ofList, mem_foldl_insert]
  simp [empty]

/-- A set holds what equals one of the primitive values that it was made of. -/
theorem contains_ofList {values : List Value} {v : Value} :
    (ofList values).contains v = true ↔
      ∃ a ∈ values, canHold a = true ∧ a.strictEq v = true := by
  rw [contains_iff]
  constructor
  · rintro ⟨key, there, has⟩
    obtain ⟨a, mem, hasToo⟩ := mem_ofList.mp there
    refine ⟨a, mem, ?_, (LiteralKey.of?_eq_iff hasToo v).mp has⟩
    rw [canHold, hasToo]
    rfl
  · rintro ⟨a, mem, holds, equal⟩
    obtain ⟨key, has⟩ := Option.isSome_iff_exists.mp holds
    exact ⟨key, mem_ofList.mpr ⟨a, mem, has⟩, (LiteralKey.of?_eq_iff has v).mpr equal⟩

theorem isEmpty_iff {s : LiteralSet} : s.isEmpty = true ↔ s.members = [] := List.isEmpty_iff

/-- A set without members holds nothing. -/
theorem contains_of_isEmpty {s : LiteralSet} (empty : s.isEmpty = true) (v : Value) :
    s.contains v = false := by
  rw [Bool.eq_false_iff]
  intro holds
  obtain ⟨key, there, -⟩ := contains_iff.mp holds
  rw [isEmpty_iff.mp empty] at there
  exact absurd there List.not_mem_nil

end LiteralSet

namespace Matcher

/-- A matcher that stands for a literal accepts what equals it. -/
theorem test_of_literal? {m : Matcher} {a : Value} (is : m.literal? = some a) (v : Value) :
    LiteralSet.canHold a = true ∧ m.test v = a.strictEq v := by
  cases m with
  | null =>
      cases is
      refine ⟨rfl, ?_⟩
      cases v <;> simp [test, Value.isNull, Value.strictEq]
  | equal value =>
      rw [literal?] at is
      split at is
      · rename_i holds
        cases is
        exact ⟨holds, by rw [test]⟩
      · cases is
  | _ => cases is

/-- The set of the literals among some matchers accepts what one of those accepts. -/
theorem contains_literals {members : List Matcher} {v : Value} :
    (LiteralSet.ofList (members.filterMap literal?)).contains v = true ↔
      ∃ m ∈ members, m.literal?.isSome = true ∧ m.test v = true := by
  rw [LiteralSet.contains_ofList]
  constructor
  · rintro ⟨a, mem, -, equal⟩
    obtain ⟨m, there, is⟩ := List.mem_filterMap.mp mem
    refine ⟨m, there, ?_, ?_⟩
    · rw [is]
      rfl
    · rw [(test_of_literal? is v).2, equal]
  · rintro ⟨m, there, isLiteral, accepts⟩
    obtain ⟨a, is⟩ := Option.isSome_iff_exists.mp isLiteral
    obtain ⟨holds, same⟩ := test_of_literal? is v
    exact ⟨a, List.mem_filterMap.mpr ⟨m, there, is⟩, holds, same ▸ accepts⟩

theorem testAny_others {members : List Matcher} {v : Value} :
    testAny (members.filter (·.literal?.isNone)) v = true ↔
      ∃ m ∈ members, m.literal?.isNone = true ∧ m.test v = true := by
  rw [testAny_eq_any, List.any_eq_true]
  simp only [List.mem_filter, and_assoc]

/-- A choice accepts what one of its members accepts, however the members are kept. -/
theorem test_ofAlternatives (members : List Matcher) (v : Value) :
    (ofAlternatives members).test v = true ↔ ∃ m ∈ members, m.test v = true := by
  have split : (∃ m ∈ members, m.test v = true) ↔
      (LiteralSet.ofList (members.filterMap literal?)).contains v = true ∨
        testAny (members.filter (·.literal?.isNone)) v = true := by
    rw [contains_literals, testAny_others, ← exists_or]
    apply exists_congr
    intro m
    cases m.literal? <;> simp
  rw [split, ofAlternatives]
  -- A set or a list that is left out would not have accepted anything.
  generalize LiteralSet.ofList (members.filterMap literal?) = literals
  cases members.filter (·.literal?.isNone) with
  | nil =>
      by_cases empty : literals.isEmpty
      · simp [empty, test, testAny, LiteralSet.contains_of_isEmpty empty]
      · simp [empty, test, testAny]
  | cons m rest =>
      by_cases empty : literals.isEmpty
      · simp [empty, test, LiteralSet.contains_of_isEmpty empty]
      · simp [empty, test]

end Matcher

end Semblance
