import Semblance.Proofs.Matcher.Growth
import Semblance.Proofs.Pattern.Shapes
import Semblance.Proofs.Pattern.StringSchema

/-!
# Patterns that only ask for what is there

Without registered schemas, there are few ways for a pattern to ask for something to be missing:
`Object.hasNot`, a regular expression, which reads a value as text, and a test of the caller's. A
pattern that does none of these, wherever a pattern can stand in it, accepts with a value all that the
value grows to.
-/

namespace Semblance.Pattern

/-- Patterns that ask for nothing to be missing. What schemas are given as names or bounds is no
pattern, and is not looked at. -/
inductive IsPositive : Pattern → Prop where
  | null : IsPositive null
  | bool (b : Bool) : IsPositive (bool b)
  | number (n : Number) : IsPositive (number n)
  /-- A string that stands for itself. -/
  | string {s : String} (plain : ∀ body, s ≠ "Regexp" ++ ":" ++ body) : IsPositive (string s)
  | choice {members : List Pattern} (notFit : ∀ points, members ≠ [sequence points])
      (each : ∀ p ∈ members, IsPositive p) : IsPositive (sequence members)
  | fit {points : List Pattern} (each : ∀ p ∈ points, IsPositive p) :
      IsPositive (sequence [sequence points])
  | fields {entries : List (String × Pattern)} (plain : schemaOf? entries = none)
      (each : ∀ e ∈ entries, IsPositive e.2) : IsPositive (map entries)
  | objectHas {arguments : List (String × Pattern)}
      (schema : schemaOf? arguments = some "Object.has") : IsPositive (map arguments)
  | stringLength {arguments : List (String × Pattern)}
      (schema : schemaOf? arguments = some "String.length") : IsPositive (map arguments)
  | and {arguments : List (String × Pattern)} (schema : schemaOf? arguments = some "and")
      (each : ∀ parts, parts? arguments = some parts → ∀ p ∈ parts, IsPositive p) :
      IsPositive (map arguments)

/-! ## Schemas that are given no patterns -/

theorem isMonotone_of_objectHas {nested : Compiler} {arguments : Schema.Arguments} {m : Matcher}
    (compiled : Schema.objectHas nested arguments = .ok m) : m.IsMonotone := by
  have whole : Schema.objectHas nested arguments =
      (Schema.fieldNames "Object.has" arguments).map .objectHas := by
    rw [Schema.objectHas]
    cases Schema.fieldNames "Object.has" arguments <;> rfl
  rw [whole] at compiled
  obtain ⟨names, -, rfl⟩ := Traversal.map_eq_ok_iff.mp compiled
  exact Matcher.isMonotone_objectHas names

theorem isMonotone_of_stringLength {nested : Compiler} {arguments : Schema.Arguments} {m : Matcher}
    (compiled : Schema.stringLength nested arguments = .ok m) : m.IsMonotone := by
  have bounds : ∃ min max, m = .stringLength min max := by
    simp only [Schema.stringLength, bind, Except.bind, pure, Except.pure] at compiled
    repeat' split at compiled
    all_goals cases compiled
    all_goals exact ⟨_, _, rfl⟩
  obtain ⟨min, max, rfl⟩ := bounds
  exact Matcher.isMonotone_stringLength min max

/-! ## All patterns -/

variable {nested : Compiler}

/-- The matchers of patterns that grow with a value grow with it too. -/
theorem isMonotone_of_mapM {ps : List Pattern} {ms : List Matcher}
    (each : ∀ p ∈ ps, ∀ {m}, compileWith .empty nested p = .ok m → m.IsMonotone)
    (results : ps.mapM (compileWith .empty nested) = .ok ms) : ∀ m ∈ ms, m.IsMonotone := by
  intro m mem
  obtain ⟨p, mem, compiled⟩ := (Traversal.mem_iff_of_mapM_eq_ok results).mp mem
  exact each p mem compiled

theorem isMonotone_of_compileWith {p : Pattern} (positive : p.IsPositive) {m : Matcher}
    (compiled : compileWith .empty nested p = .ok m) : m.IsMonotone := by
  induction positive generalizing m with
  | null =>
      cases compiled
      exact Matcher.isMonotone_null
  | bool b =>
      cases compiled
      exact Matcher.isMonotone_equal rfl
  | number n =>
      cases compiled
      exact Matcher.isMonotone_equal rfl
  | string plain =>
      rw [compileWith, compileString, stringSchema?_empty_eq_none plain] at compiled
      cases compiled
      exact Matcher.isMonotone_equal rfl
  | choice notFit _ each =>
      rw [compileWith_sequence .empty nested notFit] at compiled
      obtain ⟨ms, results, rfl⟩ := Traversal.map_eq_ok_iff.mp compiled
      exact Matcher.isMonotone_ofAlternatives (isMonotone_of_mapM each results)
  | fit _ each =>
      rw [compileWith_fit] at compiled
      obtain ⟨ms, results, rfl⟩ := Traversal.map_eq_ok_iff.mp compiled
      exact Matcher.isMonotone_arrayFit (isMonotone_of_mapM each results)
  | fields plain _ each =>
      rw [compileWith_fields plain] at compiled
      obtain ⟨fields, results, rfl⟩ := Traversal.map_eq_ok_iff.mp compiled
      apply Matcher.isMonotone_allOf
      intro field mem
      obtain ⟨entry, inEntries, whole⟩ := (Traversal.mem_iff_of_mapM_eq_ok results).mp mem
      obtain ⟨m, compiled, rfl⟩ := Traversal.map_eq_ok_iff.mp whole
      exact each entry inEntries compiled
  | objectHas schema =>
      rw [compileWith_schema rfl (by decide) rfl schema] at compiled
      exact isMonotone_of_objectHas compiled
  | stringLength schema =>
      rw [compileWith_schema rfl (by decide) rfl schema] at compiled
      exact isMonotone_of_stringLength compiled
  | @and arguments schema _ each =>
      rw [compileWith_and rfl schema] at compiled
      cases given : parts? arguments with
      | none =>
          -- Without a list of parts, `and` does not compile.
          rw [given] at compiled
          cases compiled
      | some parts =>
          rw [given] at compiled
          obtain ⟨ms, results, rfl⟩ := Traversal.map_eq_ok_iff.mp compiled
          exact Matcher.isMonotone_arrayAnd (isMonotone_of_mapM (each parts given) results)

/-- What a pattern that asks for nothing to be missing accepts, it still accepts after things were
added to it. -/
theorem accepts_of_growsTo {p : Pattern} (positive : p.IsPositive) {m : Matcher}
    (compiled : compile .empty p = .ok m) {v w : Value} (grows : v.GrowsTo w)
    (accepts : m.test v = true) : m.test w = true := by
  obtain ⟨-, compiled⟩ := compile_eq_ok_iff.mp compiled
  exact isMonotone_of_compileWith positive compiled v w grows accepts

/-- An item comes before the ones that are asked for, and keys are added inside and outside. -/
theorem accepts_of_growsTo_nested :
    let has : Pattern := map [("$", string "Object.has"), ("fields", sequence [string "id"])]
    let p : Pattern := map [("tags", sequence [sequence [string "a", has]])]
    let m : Matcher := .allOf [("tags", .arrayFit [.equal (.string "a"), .objectHas ["id"]])]
    let v : Value := .object [("tags", .array [.string "a", .object [("id", .null)]])]
    let w : Value := .object [("tags", .array [.bool true, .string "a",
      .object [("id", .null), ("size", .bool false)]]), ("type", .null)]
    p.IsPositive ∧ compile .empty p = .ok m ∧ v.GrowsTo w ∧ m.test v = true ∧ m.test w = true := by
  intro has p m v w
  have positive : p.IsPositive := by
    refine .fields rfl (List.forall_mem_singleton.mpr (.fit fun point mem => ?_))
    rcases List.mem_pair.mp mem with rfl | rfl
    · refine .string fun body same => ?_
      have cut : schemaBody? ("Regexp" ++ ":" ++ body) = some ("Regexp", body) :=
        schemaBody?_append (by decide) body
      have uncut : schemaBody? "a" = none := by decide
      rw [← same, uncut] at cut
      cases cut
    · exact .objectHas rfl
  have compiled : compile .empty p = .ok m := by
    refine compile_eq_ok_iff.mpr ⟨by decide, ?_⟩
    rw [compileUnchecked_eq]
    rfl
  have inner : Value.GrowsTo (.object [("id", .null)])
      (.object [("id", .null), ("size", .bool false)]) :=
    Value.growsTo_object (List.forall_mem_singleton.mpr ⟨.null, rfl, .scalar rfl⟩)
  have outer : v.GrowsTo w := by
    refine Value.growsTo_object (List.forall_mem_singleton.mpr ⟨_, rfl, .array ?_⟩)
    exact .cons_right (.cons (.scalar rfl) (.cons inner .nil))
  have accepts : m.test v = true := by decide
  exact ⟨positive, compiled, outer, accepts, accepts_of_growsTo positive compiled outer accepts⟩

end Semblance.Pattern
