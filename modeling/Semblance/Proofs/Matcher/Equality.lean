import Semblance.Proofs.Matcher.Fit
import Semblance.Proofs.Matcher.LiteralSet
import Semblance.Proofs.Value.Equality

/-!
# Matchers and equal values

Equal values may be held in different ways, and matchers look at them in different ways: they
compare values, keys of literals, names of fields, numbers of characters. None of these ways shows a
difference. Only a regular expression, which reads how a value is written, and a test of the caller's
are free to tell equal values apart.
-/

namespace Semblance

/-! ## Literals -/

/-- Equal values have one key, or none of them has a key. -/
theorem LiteralKey.of?_eq_of_strictEq {a b : Value} (equal : a.strictEq b = true) :
    of? a = of? b := by
  cases has : of? a with
  | some key => exact ((of?_eq_iff has b).mpr equal).symm
  | none =>
      cases Value.strictEq_iff.mp equal with
      | array same => rfl
      | object same => rfl
      | _ => cases has

theorem LiteralSet.contains_eq_of_strictEq (s : LiteralSet) {a b : Value}
    (equal : a.strictEq b = true) : s.contains a = s.contains b := by
  unfold contains
  rw [LiteralKey.of?_eq_of_strictEq equal]

namespace Matcher

/-- A matcher that accepts equal values together or not at all. -/
def RespectsEquality (m : Matcher) : Prop :=
  ∀ a b : Value, a.strictEq b = true → m.test a = m.test b

/-! ## Matchers without parts -/

theorem respectsEquality_null : null.RespectsEquality := by
  intro a b equal
  cases Value.strictEq_iff.mp equal <;> rfl

theorem respectsEquality_equal (expected : Value) : (equal expected).RespectsEquality := by
  intro a b equal
  have same : expected.strictEq a = expected.strictEq b := Value.strictEq_congr_right expected equal
  simpa [test] using same

theorem respectsEquality_set (literals : LiteralSet) : (set literals).RespectsEquality := by
  intro a b equal
  have same : literals.contains a = literals.contains b := literals.contains_eq_of_strictEq equal
  simpa [test] using same

theorem respectsEquality_never : never.RespectsEquality := by
  intro a b equal
  simp [test]

theorem respectsEquality_stringLength (min max : Option Nat) :
    (stringLength min max).RespectsEquality := by
  intro a b equal
  cases Value.strictEq_iff.mp equal <;> simp [test]

/-- Equal maps have the same keys. -/
theorem isSome_lookup_eq {entries others : List (String × Value)}
    (same : List.Forall₂ Value.SameEntry entries others) (name : String) :
    (entries.lookup name).isSome = (others.lookup name).isSome := by
  have related := Entries.lookup_rel same name
  generalize entries.lookup name = found at related ⊢
  generalize others.lookup name = foundToo at related ⊢
  cases related <;> rfl

theorem respectsEquality_objectHas (names : List String) : (objectHas names).RespectsEquality := by
  intro a b equal
  cases Value.strictEq_iff.mp equal with
  | object same => simp only [test, isSome_lookup_eq same]
  | _ => simp [test]

theorem respectsEquality_objectHasNot (names : List String) :
    (objectHasNot names).RespectsEquality := by
  intro a b equal
  cases Value.strictEq_iff.mp equal with
  | object same => simp only [test, ← Option.not_isSome, isSome_lookup_eq same]
  | _ => simp [test]

/-! ## Matchers that are put together -/

theorem respectsEquality_oneOf {literals : Option LiteralSet} {others : List Matcher}
    (each : ∀ m ∈ others, m.RespectsEquality) : (oneOf literals others).RespectsEquality := by
  intro a b equal
  have literal : literals.any (·.contains a) = literals.any (·.contains b) := by
    cases literals with
    | none => rfl
    | some s => simpa using s.contains_eq_of_strictEq equal
  have rest : others.any (·.test a) = others.any (·.test b) := by
    rw [Bool.eq_iff_iff, List.any_eq_true, List.any_eq_true]
    refine exists_congr fun m => and_congr_right fun mem => ?_
    rw [each m mem a b equal]
  rw [test, test, testAny_eq_any, testAny_eq_any, literal, rest]

theorem respectsEquality_arrayAnd {parts : List Matcher} (each : ∀ m ∈ parts, m.RespectsEquality) :
    (arrayAnd parts).RespectsEquality := by
  intro a b equal
  have same : parts.all (·.test a) = parts.all (·.test b) := by
    rw [Bool.eq_iff_iff, List.all_eq_true, List.all_eq_true]
    refine forall₂_congr fun m mem => ?_
    rw [each m mem a b equal]
  rw [test, test, testAll_eq_all, testAll_eq_all, same]

/-- The points take items at the same places of equal lists. -/
theorem testFit_eq_of_forall₂ {points : List Matcher} (each : ∀ m ∈ points, m.RespectsEquality)
    {items others : List Value} (same : List.Forall₂ Value.SameItem items others) :
    testFit points items = testFit points others := by
  induction same generalizing points with
  | nil => rfl
  | @cons v w items others first _ ih =>
      cases points with
      | nil => simp [testFit]
      | cons point rest =>
          obtain ⟨head, later⟩ := List.forall_mem_cons.mp each
          have verdict : point.test v = point.test w := head v w first
          cases met : point.test v with
          | true => rw [testFit_cons_of_test met, testFit_cons_of_test (verdict ▸ met), ih later]
          | false =>
              rw [testFit_cons_of_not_test met, testFit_cons_of_not_test (verdict ▸ met), ih each]

theorem respectsEquality_arrayFit {points : List Matcher}
    (each : ∀ m ∈ points, m.RespectsEquality) : (arrayFit points).RespectsEquality := by
  intro a b equal
  cases Value.strictEq_iff.mp equal with
  | array same =>
      have fits := testFit_eq_of_forall₂ each same
      simpa [test] using fits
  | _ => simp [test]

theorem respectsEquality_allOf {fields : List (String × Matcher)}
    (each : ∀ f ∈ fields, f.2.RespectsEquality) : (allOf fields).RespectsEquality := by
  intro a b equal
  cases Value.strictEq_iff.mp equal with
  | @object entries others same =>
      have field (f : String × Matcher) (mem : f ∈ fields) :
          (entries.lookup f.1).any f.2.test = (others.lookup f.1).any f.2.test := by
        have related := Entries.lookup_rel same f.1
        generalize entries.lookup f.1 = found at related ⊢
        generalize others.lookup f.1 = foundToo at related ⊢
        cases related with
        | none => rfl
        | some equal => exact each f mem _ _ equal
      have all : testFields fields entries = testFields fields others := by
        rw [testFields_eq_all, testFields_eq_all, Bool.eq_iff_iff, List.all_eq_true,
          List.all_eq_true]
        refine forall₂_congr fun f mem => ?_
        rw [field f mem]
      simpa [test] using all
  | _ => simp [test]

/-! ## All matchers -/

/-- Matchers in which there is no regular expression and no test of the caller's, at any depth. -/
inductive IsStructural : Matcher → Prop where
  | null : IsStructural null
  | equal (value : Value) : IsStructural (equal value)
  | oneOf {literals : Option LiteralSet} {others : List Matcher}
      (each : ∀ m ∈ others, IsStructural m) : IsStructural (oneOf literals others)
  | set (literals : LiteralSet) : IsStructural (set literals)
  | arrayFit {points : List Matcher} (each : ∀ m ∈ points, IsStructural m) :
      IsStructural (arrayFit points)
  | arrayAnd {parts : List Matcher} (each : ∀ m ∈ parts, IsStructural m) :
      IsStructural (arrayAnd parts)
  | allOf {fields : List (String × Matcher)} (each : ∀ f ∈ fields, IsStructural f.2) :
      IsStructural (allOf fields)
  | objectHas (names : List String) : IsStructural (objectHas names)
  | objectHasNot (names : List String) : IsStructural (objectHasNot names)
  | stringLength (min max : Option Nat) : IsStructural (stringLength min max)
  | never : IsStructural never

theorem IsStructural.respectsEquality {m : Matcher} (structural : m.IsStructural) :
    m.RespectsEquality := by
  induction structural with
  | null => exact respectsEquality_null
  | equal value => exact respectsEquality_equal value
  | oneOf _ each => exact respectsEquality_oneOf each
  | set literals => exact respectsEquality_set literals
  | arrayFit _ each => exact respectsEquality_arrayFit each
  | arrayAnd _ each => exact respectsEquality_arrayAnd each
  | allOf _ each => exact respectsEquality_allOf each
  | objectHas names => exact respectsEquality_objectHas names
  | objectHasNot names => exact respectsEquality_objectHasNot names
  | stringLength min max => exact respectsEquality_stringLength min max
  | never => exact respectsEquality_never

/-- A matcher that does not read how a value is written cannot tell equal values apart. -/
theorem test_eq_of_strictEq {m : Matcher} (structural : m.IsStructural) {a b : Value}
    (equal : a.strictEq b = true) : m.test a = m.test b :=
  structural.respectsEquality a b equal

/-- One value holds integers, the other one floats, and a zero with the other sign. -/
theorem test_eq_of_strictEq_nested :
    let one : Value := .number (.int 1 (by omega) (by omega))
    let m : Matcher := .allOf [("size", .oneOf (some (.ofList [one])) [.null]),
      ("tags", .arrayFit [.equal (.array [.zero]), .objectHas ["id"]])]
    let id : Value := .object [("id", .null)]
    let a : Value := .object [("size", one), ("tags", .array [.bool true, .array [.zero], id])]
    let b : Value := .object [("size", .float 1.0),
      ("tags", .array [.bool true, .array [.float (-0.0)], id])]
    m.IsStructural ∧ a.strictEq b = true ∧ m.test a = true ∧ m.test a = m.test b := by
  intro one m id a b
  have structural : m.IsStructural := by
    refine .allOf fun f mem => ?_
    rcases List.mem_pair.mp mem with rfl | rfl
    · exact .oneOf (List.forall_mem_singleton.mpr .null)
    · refine .arrayFit fun point mem => ?_
      rcases List.mem_pair.mp mem with rfl | rfl
      · exact .equal _
      · exact .objectHas _
  have equal : a.strictEq b = true := by decide +kernel
  have accepts : m.test a = true := by decide +kernel
  exact ⟨structural, equal, accepts, test_eq_of_strictEq structural equal⟩

end Matcher

end Semblance
