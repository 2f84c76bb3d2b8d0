import Semblance.Pattern.Compile

/-!
# Strings that name a schema

A string names a schema by what stands before its first colon. Without registered schemas that is
`Regexp` only; every other string stands for itself.
-/

namespace Semblance.Pattern

/-- A string is cut at a colon before which there is no other. -/
theorem schemaBody?_append {name : String} (noColon : ':' ∉ name.toList) (body : String) :
    schemaBody? (name ++ ":" ++ body) = some (name, body) := by
  have before : ∀ c ∈ name.toList, decide (c ≠ ':') = true := by
    intro c mem
    rw [decide_eq_true_eq]
    rintro rfl
    exact noColon mem
  have parts : (name ++ ":" ++ body).toList = name.toList ++ ':' :: body.toList := by
    simp
  rw [schemaBody?, parts, List.takeWhile_append_of_pos before, List.dropWhile_append_of_pos before]
  simp

theorem eq_of_schemaBody? {s name body : String} (cut : schemaBody? s = some (name, body)) :
    s = name ++ ":" ++ body := by
  have whole : s.toList.takeWhile (· ≠ ':') ++ s.toList.dropWhile (· ≠ ':') = s.toList :=
    List.takeWhile_append_dropWhile
  rw [schemaBody?] at cut
  cases rest : s.toList.dropWhile (· ≠ ':') with
  | nil =>
      rw [rest] at cut
      cases cut
  | cons c cs =>
      -- What the scan stopped at is the colon.
      have colon : c = ':' := by
        have stopped := List.head?_dropWhile_not (· ≠ ':') s.toList
        rw [rest] at stopped
        simpa using stopped
      rw [rest] at cut whole
      cases cut
      rw [← String.toList_inj]
      simpa [colon] using whole.symm

/-- What the name before the first colon stands for is given what comes after it. -/
theorem stringSchema?_append (k : Knowledge) {name : String} (noColon : ':' ∉ name.toList)
    (body : String) : stringSchema? k (name ++ ":" ++ body) =
      ((k.string? name).or (Schema.strings.lookup name)).map (·, body) := by
  rw [stringSchema?, schemaBody?_append noColon body]
  cases registered : k.string? name with
  | some schema => simp [registered]
  | none => cases builtIn : Schema.strings.lookup name <;> simp [registered, builtIn]

/-- Without registered schemas, a string that does not ask for a regular expression stands for
itself. -/
theorem stringSchema?_empty_eq_none {s : String} (plain : ∀ body, s ≠ "Regexp" ++ ":" ++ body) :
    stringSchema? .empty s = none := by
  rw [stringSchema?]
  cases cut : schemaBody? s with
  | none => rfl
  | some parts =>
      obtain ⟨name, body⟩ := parts
      have other : name ≠ "Regexp" := by
        rintro rfl
        exact plain body (eq_of_schemaBody? cut)
      have unknown : Schema.strings.lookup name = none := by
        rw [Schema.strings, List.lookup_cons, beq_eq_false_iff_ne.mpr other, List.lookup_nil]
      simp [unknown, Knowledge.string?, Knowledge.empty]

end Semblance.Pattern
