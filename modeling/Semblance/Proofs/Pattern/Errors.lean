import Semblance.Proofs.Pattern.Arguments
import Semblance.Schema.Expression

/-!
# Errors without schemas of the caller

The registries that come with the library add no schema for maps, and their schemas for strings take
every body. What is left to go wrong in a pattern is the name of a schema or what it is given.
-/

namespace Semblance

open Traversal (FailsOnly)

/-- A registry to which the caller has added nothing. -/
inductive Knowledge.IsStock : Knowledge → Prop where
  | empty : IsStock .empty
  | withExpressions (ns : Namespace) : IsStock (.withExpressions ns)

theorem Knowledge.IsStock.object? {k : Knowledge} (stock : k.IsStock) (name : String) :
    k.object? name = none := by
  cases stock <;> rfl

namespace Pattern

/-- An error that blames a map for the schema that it names, or for what it gives to it. -/
inductive CompileError.BlamesSchema : CompileError → Prop where
  | unknown (name : String) : BlamesSchema (.unknownObjectSchema name)
  | argument (schema reason : String) : BlamesSchema (.invalidSchemaArgument schema reason)

open CompileError (BlamesSchema)

/-! ## Strings -/

variable {k : Knowledge}

theorem schema_of_stringSchema? (stock : k.IsStock) {s body : String} {schema : StringSchema}
    (found : stringSchema? k s = some (schema, body)) :
    schema = Schema.regexp ∨ ∃ ns, schema = Schema.expression ns := by
  simp only [stringSchema?, Option.bind_eq_bind, Option.bind_eq_some_iff, Option.or_eq_some_iff]
    at found
  obtain ⟨⟨name, rest⟩, -, schema, registered | ⟨-, builtIn⟩, same⟩ := found
  · cases same
    cases stock with
    | empty => cases registered
    | withExpressions ns =>
        have mem : (name, schema) ∈ [("expr", Schema.expression ns)] :=
          Entries.mem_of_lookup_eq_some registered
        cases List.mem_singleton.mp mem
        exact .inr ⟨ns, rfl⟩
  · cases same
    have mem : (name, schema) ∈ [("Regexp", Schema.regexp)] :=
      Entries.mem_of_lookup_eq_some builtIn
    cases List.mem_singleton.mp mem
    exact .inl rfl

/-- Every string compiles. -/
theorem exists_compileString (stock : k.IsStock) (nested : Compiler) (s : String) :
    ∃ m, compileString k nested s = .ok m := by
  rw [compileString]
  cases found : stringSchema? k s with
  | none => exact ⟨_, rfl⟩
  | some applied =>
      obtain ⟨schema, body⟩ := applied
      rcases schema_of_stringSchema? stock found with rfl | ⟨ns, rfl⟩
      · simp only [Schema.regexp]
        cases RegexTest.parse body with
        | ok test => exact ⟨_, rfl⟩
        | error fault => exact ⟨_, rfl⟩
      · simp only [Schema.expression]
        cases Expression.compile body [Expression.subjectName] with
        | ok e => exact ⟨_, rfl⟩
        | error e => exact ⟨_, rfl⟩

/-! ## All patterns -/

/-- The parts of a pattern are compiled as they stand, so the induction is on its positions. -/
theorem failsOnly_compileWith (stock : k.IsStock) (nested : Compiler) (p : Pattern) :
    FailsOnly BlamesSchema (compileWith k nested p) := by
  induction p using position_induction with
  | string s =>
      obtain ⟨m, compiled⟩ := exists_compileString stock nested s
      rw [compileWith, compiled]
      exact .ok m
  | fit points ih =>
      rw [compileWith_fit]
      exact (FailsOnly.mapM ih).map Matcher.arrayFit
  | choice members notFit ih =>
      rw [compileWith_sequence k nested notFit]
      exact (FailsOnly.mapM ih).map Matcher.ofAlternatives
  | fields entries plain ih =>
      rw [compileWith_fields plain]
      apply FailsOnly.map
      apply FailsOnly.mapM
      intro e mem
      exact (ih e mem).map (e.1, ·)
  | schema entries name named ih =>
      by_cases parts : name = "and"
      · rw [compileWith_and (stock.object? "and") (parts ▸ named)]
        cases given : parts? entries with
        | none => exact .error (.argument _ _)
        | some parts => exact (FailsOnly.mapM (ih parts given)).map Matcher.arrayAnd
      · cases known : Schema.objects.lookup name with
        | none =>
            -- Neither registered nor built in.
            rw [compileWith_unknown (stock.object? name) parts known named]
            exact .error (.unknown name)
        | some schema =>
            rw [compileWith_schema (stock.object? name) parts known named]
            intro e failed
            obtain ⟨reason, rfl⟩ := Schema.failsOnly_objects known parts nested entries e failed
            exact .argument name reason
  | _ => exact .ok _

/-- A whole pattern can also be too deep. -/
theorem error_of_compile (stock : k.IsStock) {p : Pattern} {e : CompileError}
    (failed : compile k p = .error e) :
    e = .limit (.patternDepth p.depth) ∨ BlamesSchema e := by
  by_cases shallow : p.depth ≤ maxPatternDepth
  · rw [compile_of_depth_le k shallow, compileUnchecked_eq] at failed
    exact .inr (failsOnly_compileWith stock _ p e failed)
  · rw [compile_of_lt_depth k (Nat.lt_of_not_le shallow)] at failed
    cases failed
    exact .inl rfl

end Pattern

end Semblance
