import Semblance.Proofs.Pattern.Choice

/-!
# What patterns compile to

One equation for each shape of a pattern that has parts: the parts compile in order, and one matcher
is put together from theirs. Registered schemas come before the built-in ones.
-/

namespace Semblance.Pattern

variable {k : Knowledge} {nested : Compiler}

theorem compileWith_fit (points : List Pattern) :
    compileWith k nested (sequence [sequence points]) =
      (points.mapM (compileWith k nested)).map .arrayFit := by
  rw [compileWith, compileItems_eq_mapM]
  cases points.mapM (compileWith k nested) <;> rfl

/-- Compile the value of an entry and keep its key. -/
def compileEntry (k : Knowledge) (nested : Compiler) (entry : String × Pattern) :
    Except CompileError (String × Matcher) :=
  (compileWith k nested entry.2).map (entry.1, ·)

theorem compileEntries_eq_mapM (entries : List (String × Pattern)) :
    compileEntries k nested entries = entries.mapM (compileEntry k nested) := by
  induction entries with
  | nil => rfl
  | cons entry rest ih =>
      obtain ⟨key, p⟩ := entry
      rw [compileEntries, List.mapM_cons, ← ih, compileEntry]
      cases compileWith k nested p <;> rfl

theorem compileWith_fields {entries : List (String × Pattern)} (plain : schemaOf? entries = none) :
    compileWith k nested (map entries) =
      (entries.mapM (compileEntry k nested)).map .allOf := by
  rw [compileWith, plain]
  simp only
  rw [compileEntries_eq_mapM]
  cases entries.mapM (compileEntry k nested) <;> rfl

/-- The parts that the built-in schema `and` asks for, if it is given any. -/
def parts? (arguments : List (String × Pattern)) : Option (List Pattern) :=
  match arguments.lookup "forAll" with
  | some (sequence parts) => some parts
  | _ => none

theorem compileParts_eq (arguments : List (String × Pattern)) :
    compileParts k nested arguments =
      match parts? arguments with
      | some parts => parts.mapM (compileWith k nested)
      | none => .error Schema.missingParts := by
  rw [compileParts_eq_lookup, parts?]
  cases arguments.lookup "forAll" with
  | none => rfl
  | some value =>
      cases value with
      | sequence parts => exact compileItems_eq_mapM k nested parts
      | _ => rfl

variable {arguments : List (String × Pattern)}

theorem compileWith_and (builtIn : k.object? "and" = none)
    (schema : schemaOf? arguments = some "and") : compileWith k nested (map arguments) =
      match parts? arguments with
      | some parts => (parts.mapM (compileWith k nested)).map .arrayAnd
      | none => .error Schema.missingParts := by
  rw [compileWith, schema]
  simp only [builtIn, compileParts_eq]
  cases parts? arguments with
  | none => rfl
  | some parts => cases parts.mapM (compileWith k nested) <;> rfl

/-- A registered schema is given all entries of the map. -/
theorem compileWith_registered {name : String} {schema : ObjectSchema}
    (registered : k.object? name = some schema) (named : schemaOf? arguments = some name) :
    compileWith k nested (map arguments) = schema nested arguments := by
  rw [compileWith, named]
  simp only [registered]

/-- The other built-in schemas are given them, too. -/
theorem compileWith_schema {name : String} {schema : ObjectSchema}
    (builtIn : k.object? name = none) (other : name ≠ "and")
    (known : Schema.objects.lookup name = some schema) (named : schemaOf? arguments = some name) :
    compileWith k nested (map arguments) = schema nested arguments := by
  rw [compileWith, named]
  simp only [builtIn, if_neg other, known]

theorem compileWith_unknown {name : String} (unregistered : k.object? name = none)
    (other : name ≠ "and") (unknown : Schema.objects.lookup name = none)
    (named : schemaOf? arguments = some name) :
    compileWith k nested (map arguments) = .error (.unknownObjectSchema name) := by
  rw [compileWith, named]
  simp only [unregistered, if_neg other, unknown]

/-! ## Whole patterns -/

theorem compileUnchecked_eq (k : Knowledge) :
    compileUnchecked k = compileWith k (compileWithin k (maxSchemaNesting - 1)) :=
  rfl

theorem compile_eq_ok_iff {p : Pattern} {m : Matcher} : compile k p = .ok m ↔
    p.depth ≤ maxPatternDepth ∧ compileUnchecked k p = .ok m := by
  by_cases shallow : p.depth ≤ maxPatternDepth
  · simp [compile_of_depth_le k shallow, shallow]
  · simp [compile_of_lt_depth k (Nat.lt_of_not_le shallow), shallow]

end Semblance.Pattern
