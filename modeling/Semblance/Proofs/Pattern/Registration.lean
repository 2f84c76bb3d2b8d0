import Semblance.Proofs.Pattern.Errors
import Semblance.Proofs.Pattern.StringSchema

/-!
# Registered schemas concern who names them

A schema that makes its matcher without the compiler that it is given sees nothing of the registry.
If all schemas of a registry are like that, then a further schema makes a difference only to
patterns that name it: a schema for strings to a string with its name before the first colon, and a
schema for maps to a map with its name under the key `$`. The string or the map has to stand where
compilation comes by. This is so for errors as for matchers.
-/

namespace Semblance

open Pattern (CompileError Reaches)

/-- A schema that does not ask for patterns to be compiled. -/
def IsSelfContained {α : Type} (schema : Compiler → α → Except CompileError Matcher) : Prop :=
  ∀ compile other argument, schema compile argument = schema other argument

/-- None of the registered schemas asks for patterns to be compiled. -/
structure Knowledge.IsSelfContained (k : Knowledge) : Prop where
  string : ∀ name schema, k.string? name = some schema → Semblance.IsSelfContained schema
  object : ∀ name schema, k.object? name = some schema → Semblance.IsSelfContained schema

/-- So it is with the registries that come with the library. -/
theorem Knowledge.IsStock.isSelfContained {k : Knowledge} (stock : k.IsStock) :
    k.IsSelfContained where
  object name schema registered := by
    rw [stock.object?] at registered
    cases registered
  string name schema registered := by
    cases stock with
    | empty => cases registered
    | withExpressions ns =>
        have mem : (name, schema) ∈ [("expr", Schema.expression ns)] :=
          Entries.mem_of_lookup_eq_some registered
        cases List.mem_singleton.mp mem
        intro compile other body
        rfl

namespace Pattern

/-! ## Registries that agree on the names in a pattern -/

/-- Two registries have the same schema for the name that a pattern gives, if it gives one. -/
def AgreeOn (k l : Knowledge) : Pattern → Prop
  | string s => ∀ name body, schemaBody? s = some (name, body) → k.string? name = l.string? name
  | map entries => ∀ name, schemaOf? entries = some name → k.object? name = l.object? name
  | _ => True

theorem AgreeOn.refl (k : Knowledge) (p : Pattern) : AgreeOn k k p := by
  cases p with
  | string s => exact fun name body cut => rfl
  | map entries => exact fun name named => rfl
  | _ => trivial

variable {k l : Knowledge}

theorem compileString_eq_of_agreeOn (selfContained : k.IsSelfContained) (nested other : Compiler)
    {s : String} (agree : AgreeOn k l (string s)) :
    compileString k nested s = compileString l other s := by
  have same : stringSchema? k s = stringSchema? l s := by
    rw [stringSchema?, stringSchema?]
    cases cut : schemaBody? s with
    | none => rfl
    | some parts =>
        obtain ⟨name, body⟩ := parts
        simp only [Option.bind_eq_bind, Option.bind_some, agree name body cut]
  rw [compileString, compileString, ← same]
  cases found : stringSchema? k s with
  | none => rfl
  | some applied =>
      obtain ⟨schema, body⟩ := applied
      simp only [stringSchema?, Option.bind_eq_bind, Option.bind_eq_some_iff,
        Option.or_eq_some_iff] at found
      obtain ⟨⟨name, rest⟩, -, schema, registered | ⟨-, builtIn⟩, same⟩ := found
      · cases same
        exact selfContained.string name schema registered nested other rest
      · cases same
        -- The built-in schema looks at nothing but the body.
        have mem : (name, schema) ∈ [("Regexp", Schema.regexp)] :=
          Entries.mem_of_lookup_eq_some builtIn
        cases List.mem_singleton.mp mem
        rfl

/-- Of the built-in schemas for maps only `and` compiles patterns. -/
theorem isSelfContained_objects {name : String} {schema : ObjectSchema}
    (known : Schema.objects.lookup name = some schema) (other : name ≠ "and") :
    Semblance.IsSelfContained schema := by
  have mem := Entries.mem_of_lookup_eq_some known
  simp only [Schema.objects, List.mem_cons, List.not_mem_nil, or_false, Prod.mk.injEq] at mem
  intro compile another arguments
  rcases mem with ⟨-, rfl⟩ | ⟨-, rfl⟩ | ⟨same, -⟩ | ⟨-, rfl⟩
  · rfl
  · rfl
  · exact absurd same other
  · rfl

/-- What is looked up for a pattern is looked up for the patterns at its positions, and then nothing
else is asked of the registry. -/
theorem compileWith_eq_of_agreeOn (selfContained : k.IsSelfContained) (nested other : Compiler)
    (p : Pattern) (agree : ∀ q, Reaches k p q → AgreeOn k l q) :
    compileWith k nested p = compileWith l other p := by
  induction p using position_induction with
  | string s =>
      rw [compileWith, compileWith]
      exact compileString_eq_of_agreeOn selfContained nested other (agree _ (.here _))
  | fit points ih =>
      have same : points.mapM (compileWith k nested) = points.mapM (compileWith l other) :=
        Traversal.mapM_congr fun p mem => ih p mem fun q inner => agree q (.point mem inner)
      rw [compileWith_fit, compileWith_fit, same]
  | choice members notFit ih =>
      have same : members.mapM (compileWith k nested) = members.mapM (compileWith l other) :=
        Traversal.mapM_congr fun p mem => ih p mem fun q inner =>
          agree q (.member notFit mem inner)
      rw [compileWith_sequence k nested notFit, compileWith_sequence l other notFit, same]
  | fields entries plain ih =>
      have same : entries.mapM (compileEntry k nested) = entries.mapM (compileEntry l other) := by
        apply Traversal.mapM_congr
        intro e mem
        rw [compileEntry, compileEntry, ih e mem fun q inner => agree q (.field plain mem inner)]
      rw [compileWith_fields plain, compileWith_fields plain, same]
  | schema entries name named ih =>
      have here : k.object? name = l.object? name := agree _ (.here _) name named
      cases registered : k.object? name with
      | some schema =>
          rw [compileWith_registered registered named,
            compileWith_registered (here ▸ registered) named]
          exact selfContained.object name schema registered nested other entries
      | none =>
          have unregistered : l.object? name = none := here ▸ registered
          by_cases parts : name = "and"
          · subst parts
            rw [compileWith_and registered named, compileWith_and unregistered named]
            cases given : parts? entries with
            | none => rfl
            | some parts =>
                have same : parts.mapM (compileWith k nested) =
                    parts.mapM (compileWith l other) :=
                  Traversal.mapM_congr fun p mem => ih parts given p mem fun q inner =>
                    agree q (.part registered named given mem inner)
                simp only [same]
          · cases known : Schema.objects.lookup name with
            | none =>
                rw [compileWith_unknown registered parts known named,
                  compileWith_unknown unregistered parts known named]
            | some schema =>
                rw [compileWith_schema registered parts known named,
                  compileWith_schema unregistered parts known named]
                exact isSelfContained_objects known parts nested other entries
  | _ => rfl

/-- If no registered schema asks for patterns to be compiled, it makes no difference how often schemas
may be entered one within the other, and the bound on it is never felt. -/
theorem compileWithin_eq_of_isSelfContained (selfContained : k.IsSelfContained) (levels : Nat)
    (p : Pattern) : compileWithin k levels p = compileUnchecked k p := by
  rw [compileUnchecked_eq]
  cases levels with
  | zero => exact compileWith_eq_of_agreeOn selfContained _ _ p fun q _ => .refl k q
  | succ levels => exact compileWith_eq_of_agreeOn selfContained _ _ p fun q _ => .refl k q

theorem compile_eq_of_agreeOn (selfContained : k.IsSelfContained) {p : Pattern}
    (agree : ∀ q, Reaches k p q → AgreeOn k l q) : compile k p = compile l p := by
  by_cases shallow : p.depth ≤ maxPatternDepth
  · rw [compile_of_depth_le k shallow, compile_of_depth_le l shallow, compileUnchecked_eq,
      compileUnchecked_eq]
    exact compileWith_eq_of_agreeOn selfContained _ _ p agree
  · rw [compile_of_lt_depth k (Nat.lt_of_not_le shallow),
      compile_of_lt_depth l (Nat.lt_of_not_le shallow)]

/-! ## One more schema -/

/-- The name is what stands before the first colon of the string. -/
def NamesSchema (s name : String) : Prop := ':' ∉ name.toList ∧ ∃ body, s = name ++ ":" ++ body

theorem namesSchema_of_schemaBody? {s name body : String}
    (cut : schemaBody? s = some (name, body)) : NamesSchema s name := by
  refine ⟨?_, body, eq_of_schemaBody? cut⟩
  rw [schemaBody?] at cut
  split at cut
  · cases cut
    rw [String.toList_ofList]
    intro mem
    -- The scan does not pass a colon.
    simpa using List.mem_takeWhile_imp mem
  · cases cut

/-- The names for strings and those for maps are kept apart. -/
theorem agreeOn_registerString {name : String} {p : Pattern}
    (other : ∀ s, p = string s → ¬ NamesSchema s name) (schema : StringSchema) :
    AgreeOn k (k.registerString name schema) p := by
  cases p with
  | string s =>
      intro found body cut
      have different : found ≠ name := by
        rintro rfl
        exact other s rfl (namesSchema_of_schemaBody? cut)
      exact (Entries.lookup_insert_of_ne different schema k.strings).symm
  | map entries => exact fun _ _ => rfl
  | _ => trivial

theorem agreeOn_registerObject {name : String} {p : Pattern} (other : p.schema? ≠ some name)
    (schema : ObjectSchema) : AgreeOn k (k.registerObject name schema) p := by
  cases p with
  | map entries =>
      intro found named
      have different : found ≠ name := by
        rintro rfl
        exact other named
      exact (Entries.lookup_insert_of_ne different schema k.objects).symm
  | string s => exact fun _ _ _ => rfl
  | _ => trivial

/-- A registration changes what a pattern compiles to only if the name stands at a position of the
pattern: before the first colon of a string, or under `$` in a map. No name with a colon stands
before the first one. -/
theorem compile_ne_of_register (selfContained : k.IsSelfContained) (name : String) :
    (∀ (schema : StringSchema) (p : Pattern),
      compile (k.registerString name schema) p ≠ compile k p →
        ∃ s, Reaches k p (string s) ∧ NamesSchema s name) ∧
    (':' ∈ name.toList → ∀ schema : StringSchema,
      compile (k.registerString name schema) = compile k) ∧
    (∀ (schema : ObjectSchema) (p : Pattern),
      compile (k.registerObject name schema) p ≠ compile k p →
        ∃ entries, Reaches k p (map entries) ∧
          entries.lookup schemaKey = some (string name)) := by
  refine ⟨?_, ?_, ?_⟩
  · intro schema p
    contrapose!
    intro unnamed
    refine (compile_eq_of_agreeOn selfContained fun q reached => ?_).symm
    apply agreeOn_registerString
    rintro s rfl
    exact unnamed s reached
  · intro colon schema
    funext p
    refine (compile_eq_of_agreeOn selfContained fun q _ => ?_).symm
    apply agreeOn_registerString
    rintro s - ⟨noColon, -⟩
    exact noColon colon
  · intro schema p
    contrapose!
    intro unnamed
    refine (compile_eq_of_agreeOn selfContained fun q reached => ?_).symm
    apply agreeOn_registerObject
    cases q with
    | map entries =>
        intro named
        apply unnamed entries reached
        change schemaOf? entries = some name at named
        rw [schemaOf?] at named
        split at named
        · rename_i found
          cases named
          exact found
        · cases named
    | _ => nofun

/-- A string in a part of `and`, and a map as the value of another. -/
theorem compile_ne_of_register_nested :
    let k : Knowledge := .withExpressions .empty
    let never : StringSchema := fun _ _ => .ok .never
    let anything : ObjectSchema := fun _ _ => .ok (.objectHas [])
    let p : Pattern := map [("$", string "and"), ("forAll", sequence [string "Pair:x"])]
    let q : Pattern := map [("inner", map [("$", string "Box")])]
    k.IsSelfContained ∧
      compile (k.registerString "Pair" never) p ≠ compile k p ∧
      (∃ s, Reaches k p (string s) ∧ NamesSchema s "Pair") ∧
      compile (k.registerString "Pair:x" never) = compile k ∧
      compile (k.registerObject "Box" anything) q ≠ compile k q ∧
      ∃ entries, Reaches k q (map entries) ∧ entries.lookup schemaKey = some (string "Box") := by
  intro k never anything p q
  have selfContained : k.IsSelfContained := (Knowledge.IsStock.withExpressions _).isSelfContained
  have strings : compile (k.registerString "Pair" never) p ≠ compile k p := by
    have before : compile k p = .ok (.arrayAnd [.equal (.string "Pair:x")]) := rfl
    have after : compile (k.registerString "Pair" never) p = .ok (.arrayAnd [.never]) := rfl
    rw [before, after]
    simp
  have maps : compile (k.registerObject "Box" anything) q ≠ compile k q := by
    have before : compile k q = .error (.unknownObjectSchema "Box") := rfl
    have after : compile (k.registerObject "Box" anything) q =
      .ok (.allOf [("inner", .objectHas [])]) := rfl
    rw [before, after]
    simp
  refine ⟨selfContained, strings, ?_, ?_, maps, ?_⟩
  · exact (compile_ne_of_register selfContained "Pair").1 never p strings
  · exact (compile_ne_of_register selfContained "Pair:x").2.1 (by decide) never
  · exact (compile_ne_of_register selfContained "Box").2.2 anything q maps

end Pattern

end Semblance
