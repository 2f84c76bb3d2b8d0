import Semblance.Proofs.Matcher.LiteralSet
import Semblance.Proofs.Traversal

/-!
# Matchers that cannot be told apart

Two matchers of different kinds may give the same verdict on every value. What is put together from the
one then gives the same verdicts as what is put together from the other, although a choice keeps its
members apart by their kind.
-/

namespace Semblance.Matcher

def SameVerdicts (m n : Matcher) : Prop := ∀ v : Value, m.test v = n.test v

theorem SameVerdicts.refl (m : Matcher) : SameVerdicts m m := fun _ => rfl

/-- A test that accepts nothing is like no test at all. -/
theorem sameVerdicts_never {t : Tester} (rejects : ∀ v, t.accepts v = false) :
    SameVerdicts .never (.custom t) := by
  intro v
  rw [test, test, rejects]

variable {ms ns : List Matcher}

theorem map_test_eq (same : List.Forall₂ SameVerdicts ms ns) (v : Value) :
    ms.map (·.test v) = ns.map (·.test v) := by
  induction same with
  | nil => rfl
  | cons first _ ih => rw [List.map_cons, List.map_cons, first v, ih]

/-- A choice depends on the verdicts of its members only, not on which of them are literals. -/
theorem sameVerdicts_ofAlternatives (same : List.Forall₂ SameVerdicts ms ns) :
    SameVerdicts (ofAlternatives ms) (ofAlternatives ns) := by
  intro v
  have each (members : List Matcher) :
      (ofAlternatives members).test v = true ↔ true ∈ members.map (·.test v) := by
    rw [test_ofAlternatives, List.mem_map]
  rw [Bool.eq_iff_iff, each, each, map_test_eq same v]

theorem sameVerdicts_arrayAnd (same : List.Forall₂ SameVerdicts ms ns) :
    SameVerdicts (arrayAnd ms) (arrayAnd ns) := by
  intro v
  have each (parts : List Matcher) : testAll parts v = (parts.map (·.test v)).all id := by
    rw [testAll_eq_all, List.all_map]
    rfl
  rw [test, test, each, each, map_test_eq same v]

/-- Points with the same verdicts take the same items. -/
theorem testFit_eq (same : List.Forall₂ SameVerdicts ms ns) (items : List Value) :
    testFit ms items = testFit ns items := by
  induction same generalizing items with
  | nil => rfl
  | @cons m n _ _ first _ ih =>
      -- Both points drop the same items, and so leave the same ones to the points after them.
      have taken : (fun item => !m.test item) = fun item => !n.test item := by
        funext item
        rw [first item]
      simp only [testFit, taken]
      cases items.dropWhile fun item => !n.test item with
      | nil => rfl
      | cons _ rest => exact ih rest

theorem sameVerdicts_arrayFit (same : List.Forall₂ SameVerdicts ms ns) :
    SameVerdicts (arrayFit ms) (arrayFit ns) := by
  intro v
  cases v with
  | array items => rw [test, test, testFit_eq same]
  | _ => simp [test]

/-- Fields with the same key and the same verdicts. -/
def SameField (f g : String × Matcher) : Prop := f.1 = g.1 ∧ SameVerdicts f.2 g.2

theorem SameField.refl (f : String × Matcher) : SameField f f := ⟨rfl, .refl f.2⟩

theorem testFields_eq {fields others : List (String × Matcher)}
    (same : List.Forall₂ SameField fields others) (entries : List (String × Value)) :
    testFields fields entries = testFields others entries := by
  induction same with
  | nil => rfl
  | @cons f g _ _ first _ ih =>
      obtain ⟨key, m⟩ := f
      obtain ⟨key', n⟩ := g
      obtain ⟨rfl, verdicts⟩ := first
      simp only [testFields, ih]
      cases entries.lookup key with
      | none => rfl
      | some v => exact congrArg (· && _) (verdicts v)

theorem sameVerdicts_allOf {fields others : List (String × Matcher)}
    (same : List.Forall₂ SameField fields others) : SameVerdicts (allOf fields) (allOf others) := by
  intro v
  cases v with
  | object entries => rw [test, test, testFields_eq same]
  | _ => simp [test]

end Semblance.Matcher
