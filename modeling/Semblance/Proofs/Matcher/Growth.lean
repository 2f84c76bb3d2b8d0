import Semblance.Proofs.Entries
import Semblance.Proofs.Matcher.Fit
import Semblance.Proofs.Matcher.LiteralSet

/-!
# Values that grow

A value grows when its maps get further keys and its lists further items, at any depth. A matcher that
only asks for something to be there cannot lose by that. Such are the matchers for single literals and
all that are put together from others; not so those that ask for a key to be missing.
-/

namespace Semblance

/-- The second value is the first one with things added to it. -/
inductive Value.GrowsTo : Value → Value → Prop where
  /-- Values without parts stay what they are. -/
  | scalar {v : Value} (primitive : v.isPrimitive = true) : GrowsTo v v
  /-- The items of a list are still there, in their order and each of them grown. -/
  | array {items more : List Value} (embedded : List.SublistForall₂ GrowsTo items more) :
      GrowsTo (.array items) (.array more)
  /-- The keys of a map are still there, and the value of each of them has grown. -/
  | object {entries more : List (String × Value)}
      (kept : ∀ key, (entries.lookup key).isSome = true → (more.lookup key).isSome = true)
      (grown : ∀ key v w, entries.lookup key = some v → more.lookup key = some w → GrowsTo v w) :
      GrowsTo (.object entries) (.object more)

theorem Value.GrowsTo.eq_of_isPrimitive {v w : Value} (grows : v.GrowsTo w)
    (primitive : v.isPrimitive = true) : w = v := by
  cases grows with
  | scalar _ => rfl
  | array _ => cases primitive
  | object _ _ => cases primitive

/-- A map grows to another in which each of its entries is found, grown. -/
theorem Value.growsTo_object {entries more : List (String × Value)}
    (each : ∀ e ∈ entries, ∃ w, more.lookup e.1 = some w ∧ e.2.GrowsTo w) :
    GrowsTo (.object entries) (.object more) := by
  refine .object (fun key there => ?_) fun key v w found foundToo => ?_
  · obtain ⟨v, found⟩ := Option.isSome_iff_exists.mp there
    obtain ⟨w, foundToo, -⟩ := each _ (Entries.mem_of_lookup_eq_some found)
    exact Option.isSome_of_eq_some foundToo
  · obtain ⟨u, same, grows⟩ := each _ (Entries.mem_of_lookup_eq_some found)
    rw [foundToo] at same
    cases same
    exact grows

namespace Matcher

/-- A matcher that accepts with a value all that the value grows to. -/
def IsMonotone (m : Matcher) : Prop :=
  ∀ v w : Value, v.GrowsTo w → m.test v = true → m.test w = true

/-- A matcher for values without parts does not see anything grow. -/
theorem isMonotone_of_isPrimitive {m : Matcher}
    (only : ∀ v, m.test v = true → v.isPrimitive = true) : m.IsMonotone := by
  intro v w grows accepts
  rwa [grows.eq_of_isPrimitive (only v accepts)]

theorem isMonotone_null : null.IsMonotone := by
  apply isMonotone_of_isPrimitive
  intro v accepts
  cases v <;> simp_all [test, Value.isNull, Value.isPrimitive]

theorem isMonotone_equal {expected : Value} (primitive : expected.isPrimitive = true) :
    (equal expected).IsMonotone := by
  apply isMonotone_of_isPrimitive
  intro v accepts
  cases expected <;> cases v <;> simp_all [test, Value.strictEq, Value.isPrimitive]

theorem isMonotone_stringLength (min max : Option Nat) : (stringLength min max).IsMonotone := by
  apply isMonotone_of_isPrimitive
  intro v accepts
  cases v <;> simp_all [test, Value.isPrimitive]

theorem isMonotone_objectHas (names : List String) : (objectHas names).IsMonotone := by
  intro v w grows accepts
  cases grows with
  | scalar _ => exact accepts
  | array _ => simp [test] at accepts
  | object kept _ =>
      rw [test, List.all_eq_true] at accepts ⊢
      intro name mem
      exact kept name (accepts name mem)

/-! ## Matchers that are put together -/

theorem isMonotone_ofAlternatives {members : List Matcher}
    (each : ∀ m ∈ members, m.IsMonotone) : (ofAlternatives members).IsMonotone := by
  intro v w grows accepts
  rw [test_ofAlternatives] at accepts ⊢
  obtain ⟨m, mem, accepts⟩ := accepts
  exact ⟨m, mem, each m mem v w grows accepts⟩

theorem isMonotone_arrayAnd {parts : List Matcher} (each : ∀ m ∈ parts, m.IsMonotone) :
    (arrayAnd parts).IsMonotone := by
  intro v w grows accepts
  rw [test, testAll_eq_all, List.all_eq_true] at accepts ⊢
  intro m mem
  exact each m mem v w grows (accepts m mem)

/-- The items that the points took are still there, with others between them. -/
theorem isMonotone_arrayFit {points : List Matcher} (each : ∀ m ∈ points, m.IsMonotone) :
    (arrayFit points).IsMonotone := by
  intro v w grows accepts
  cases grows with
  | scalar _ => exact accepts
  | object _ _ => simp [test] at accepts
  | array embedded =>
      rw [test, testFit_iff] at accepts ⊢
      apply sublistForall₂_comp accepts embedded
      intro point mem item grown takes grows
      exact each point mem item grown grows takes

theorem isMonotone_allOf {fields : List (String × Matcher)}
    (each : ∀ f ∈ fields, f.2.IsMonotone) : (allOf fields).IsMonotone := by
  intro v w grows accepts
  cases grows with
  | scalar _ => exact accepts
  | array _ => simp [test] at accepts
  | object kept grown =>
      simp only [test, testFields_eq_all, List.all_eq_true, Option.any_eq_true] at accepts ⊢
      intro f mem
      obtain ⟨v, found, accepts⟩ := accepts f mem
      obtain ⟨w, foundToo⟩ := Option.isSome_iff_exists.mp (kept f.1 (by rw [found]; rfl))
      exact ⟨w, foundToo, each f mem v w (grown f.1 v w found foundToo) accepts⟩

end Matcher

end Semblance
