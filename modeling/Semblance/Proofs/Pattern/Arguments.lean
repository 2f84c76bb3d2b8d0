import Semblance.Proofs.Pattern.Positions

/-!
# Arguments of the built-in schemas

Each built-in schema for maps says what has to stand under its keys. A map that gives it anything
else is refused, and the error names the schema; a map that gives it what it asks for compiles.
There is one exception: next to an exact length, the bounds of a length are not looked at.
-/

namespace Semblance

open Traversal (FailsOnly)

namespace Schema

open Pattern (CompileError)

/-- An error that finds fault with what is given to a schema. -/
def Blames (schema : String) (e : CompileError) : Prop :=
  ∃ reason, e = .invalidSchemaArgument schema reason

/-! ## What the schemas ask for -/

/-- What may stand under the key of an optional bound, and the bound that it is read as. -/
inductive IsBound : Option Pattern → Option Nat → Prop where
  | missing : IsBound none none
  | null : IsBound (some .null) none
  | natural (n : Nat) (lower : -0x8000000000000000 ≤ (n : Int))
      (upper : (n : Int) < 0x10000000000000000) :
      IsBound (some (.number (.int n lower upper))) (some n)

/-- A list of names under the key `fields`. -/
def HasNames (arguments : Arguments) : Prop :=
  ∃ names : List String, arguments.lookup "fields" = some (.sequence (names.map .string))

/-- A list of patterns under the key `forAll`. -/
def HasParts (arguments : Arguments) : Prop :=
  ∃ parts, arguments.lookup "forAll" = some (.sequence parts)

/-- A natural number, null or nothing under each key of a bound. -/
def HasBounds (arguments : Arguments) : Prop :=
  ∀ key ∈ ["eq", "min", "max"], ∃ b, IsBound (arguments.lookup key) b

/-- The arguments are what the built-in schema of that name documents them to be. -/
@[mk_iff]
structure WellTyped (name : String) (arguments : Arguments) : Prop where
  names : name = "Object.has" ∨ name = "Object.hasNot" → HasNames arguments
  parts : name = "and" → HasParts arguments
  bounds : name = "String.length" → HasBounds arguments

/-- A length is given exactly. -/
def IsExact (arguments : Arguments) (n : Nat) : Prop := IsBound (arguments.lookup "eq") (some n)

variable {arguments : Arguments}

theorem nameList_eq_ok_iff {schema : String} {items : List Pattern} {names : List String} :
    nameList schema items = .ok names ↔ items = names.map .string := by
  induction items generalizing names with
  | nil => cases names <;> simp [nameList]
  | cons item rest ih =>
      cases item with
      | string name =>
          cases names with
          | nil => cases inner : nameList schema rest <;> simp [nameList, inner]
          | cons first others =>
              rw [List.map_cons, List.cons.injEq, ← ih, nameList]
              cases nameList schema rest <;> simp
      | _ => cases names <;> simp [nameList]

theorem fieldNames_eq_ok_iff (schema : String) {names : List String} :
    fieldNames schema arguments = .ok names ↔
      arguments.lookup "fields" = some (.sequence (names.map .string)) := by
  unfold fieldNames
  split
  · rename_i items found
    rw [nameList_eq_ok_iff, found]
    simp
  · rename_i other
    exact iff_of_false nofun (other _)

theorem bound_eq_ok_iff (schema : String) {key : String} {b : Option Nat} :
    bound schema arguments key = .ok b ↔ IsBound (arguments.lookup key) b := by
  unfold bound
  split
  · rename_i missing
    rw [missing]
    constructor
    · rintro ⟨⟩
      exact .missing
    · rintro ⟨⟩
      rfl
  · rename_i null
    rw [null]
    constructor
    · rintro ⟨⟩
      exact .null
    · rintro ⟨⟩
      rfl
  · rename_i n given
    rw [given]
    cases n with
    | float x finite => exact iff_of_false (by rintro ⟨⟩) (by rintro ⟨⟩)
    | int value lower upper =>
        by_cases natural : 0 ≤ value
        · obtain ⟨n, rfl⟩ := Int.eq_ofNat_of_zero_le natural
          simp only [Number.toNat?, if_pos natural, Int.toNat_natCast]
          constructor
          · rintro ⟨⟩
            exact .natural n lower upper
          · rintro ⟨⟩
            rfl
        · simp only [Number.toNat?, if_neg natural]
          refine iff_of_false (by rintro ⟨⟩) ?_
          rintro ⟨⟩
          omega
  · rename_i other notNull notNumber given
    rw [given]
    refine iff_of_false (by rintro ⟨⟩) ?_
    rintro ⟨⟩
    · exact notNull rfl
    · exact notNumber _ rfl

/-! ## What goes wrong with them -/

theorem failsOnly_nameList (schema : String) (items : List Pattern) :
    FailsOnly (Blames schema) (nameList schema items) := by
  induction items with
  | nil => exact .ok []
  | cons item rest ih =>
      cases item with
      | string name => exact ih.bind fun names => .ok (name :: names)
      | _ => exact .error ⟨_, rfl⟩

theorem failsOnly_fieldNames (schema : String) (arguments : Arguments) :
    FailsOnly (Blames schema) (fieldNames schema arguments) := by
  unfold fieldNames
  split
  · exact failsOnly_nameList schema _
  · exact .error ⟨_, rfl⟩

theorem failsOnly_bound (schema : String) (arguments : Arguments) (key : String) :
    FailsOnly (Blames schema) (bound schema arguments key) := by
  unfold bound
  split
  · exact .ok none
  · exact .ok none
  · split
    · exact .ok (some _)
    · exact .error ⟨_, rfl⟩
  · exact .error ⟨_, rfl⟩

theorem failsOnly_stringLength (nested : Compiler) (arguments : Arguments) :
    FailsOnly (Blames "String.length") (stringLength nested arguments) := by
  refine (failsOnly_bound _ arguments "eq").bind fun eq => ?_
  cases eq with
  | some length => exact .ok _
  | none =>
      refine (failsOnly_bound _ arguments "min").bind fun min => ?_
      exact (failsOnly_bound _ arguments "max").bind fun max => .ok _

/-- The schema `and` is left out, since its parts are patterns. -/
theorem failsOnly_objects {name : String} {schema : ObjectSchema}
    (known : objects.lookup name = some schema) (other : name ≠ "and") (nested : Compiler)
    (arguments : Arguments) : FailsOnly (Blames name) (schema nested arguments) := by
  have mem := Entries.mem_of_lookup_eq_some known
  simp only [objects, List.mem_cons, List.not_mem_nil, or_false, Prod.mk.injEq] at mem
  rcases mem with ⟨rfl, rfl⟩ | ⟨rfl, rfl⟩ | ⟨same, -⟩ | ⟨rfl, rfl⟩
  · exact (failsOnly_fieldNames _ arguments).bind fun names => .ok _
  · exact (failsOnly_fieldNames _ arguments).bind fun names => .ok _
  · exact absurd same other
  · exact failsOnly_stringLength nested arguments

/-! ## Schemas that take their arguments -/

theorem exists_fieldNames_iff (schema : String) (f : List String → Matcher) :
    (∃ m, (fieldNames schema arguments >>= fun names => .ok (f names)) = .ok m) ↔
      HasNames arguments := by
  simp only [HasNames, ← fieldNames_eq_ok_iff schema]
  cases fieldNames schema arguments <;> simp [bind, Except.bind]

theorem stringLength_of_isExact (nested : Compiler) {n : Nat} (exact : IsExact arguments n) :
    stringLength nested arguments = .ok (.stringLength (some n) (some n)) := by
  rw [stringLength, (bound_eq_ok_iff "String.length").mpr exact]
  rfl

theorem exists_stringLength_iff (nested : Compiler) (inexact : ∀ n, ¬ IsExact arguments n) :
    (∃ m, stringLength nested arguments = .ok m) ↔ HasBounds arguments := by
  simp only [HasBounds, IsExact, List.forall_mem_cons,
    ← bound_eq_ok_iff "String.length"] at inexact ⊢
  rw [stringLength]
  cases first : bound "String.length" arguments "eq" with
  | error e => simp [bind, Except.bind]
  | ok eq =>
      cases eq with
      | some n => exact absurd first (inexact n)
      | none =>
          cases bound "String.length" arguments "min" <;>
            cases bound "String.length" arguments "max" <;>
              simp [bind, Except.bind, pure, Except.pure]

/-- The schema `and` is left out, since its parts have to compile, too. -/
theorem exists_objects_iff {name : String} {schema : ObjectSchema}
    (known : objects.lookup name = some schema) (other : name ≠ "and") (nested : Compiler)
    (inexact : name = "String.length" → ∀ n, ¬ IsExact arguments n) :
    (∃ m, schema nested arguments = .ok m) ↔ WellTyped name arguments := by
  have mem := Entries.mem_of_lookup_eq_some known
  simp only [objects, List.mem_cons, List.not_mem_nil, or_false, Prod.mk.injEq] at mem
  rcases mem with ⟨rfl, rfl⟩ | ⟨rfl, rfl⟩ | ⟨same, -⟩ | ⟨rfl, rfl⟩
  · rw [show WellTyped "Object.has" arguments ↔ HasNames arguments by simp [wellTyped_iff]]
    exact exists_fieldNames_iff "Object.has" .objectHas
  · rw [show WellTyped "Object.hasNot" arguments ↔ HasNames arguments by simp [wellTyped_iff]]
    exact exists_fieldNames_iff "Object.hasNot" .objectHasNot
  · exact absurd same other
  · rw [show WellTyped "String.length" arguments ↔ HasBounds arguments by simp [wellTyped_iff]]
    exact exists_stringLength_iff nested (inexact rfl)

end Schema

namespace Pattern

open Schema (WellTyped IsExact)

variable {k : Knowledge} {arguments : Schema.Arguments} {name : String}

theorem parts?_eq_some_iff {parts : List Pattern} :
    parts? arguments = some parts ↔ arguments.lookup "forAll" = some (sequence parts) := by
  unfold parts?
  split
  · rename_i found
    rw [found]
    simp
  · rename_i other
    exact iff_of_false nofun (other parts)

/-- What is refused is refused in the name of the schema. -/
theorem compileWith_of_not_wellTyped (builtIn : k.object? name = none) (nested : Compiler)
    (named : schemaOf? arguments = some name) (known : name ∈ Schema.objects.map Prod.fst)
    (inexact : name = "String.length" → ∀ n, ¬ IsExact arguments n)
    (illTyped : ¬ WellTyped name arguments) : ∃ reason,
      compileWith k nested (map arguments) = .error (.invalidSchemaArgument name reason) := by
  -- The parts of `and` are patterns, so it is not looked up with the others.
  by_cases parts : name = "and"
  · subst parts
    rw [compileWith_and builtIn named]
    cases given : parts? arguments with
    | none => exact ⟨_, rfl⟩
    | some parts =>
        have typed : WellTyped "and" arguments := by
          simpa [Schema.wellTyped_iff] using ⟨parts, parts?_eq_some_iff.mp given⟩
        exact absurd typed illTyped
  · cases found : Schema.objects.lookup name with
    | none => exact absurd known (Entries.lookup_eq_none_iff.mp found)
    | some schema =>
        rw [compileWith_schema builtIn parts found named]
        cases outcome : schema nested arguments with
        | ok m =>
            have typed := (Schema.exists_objects_iff found parts nested inexact).mp ⟨m, outcome⟩
            exact absurd typed illTyped
        | error e =>
            obtain ⟨reason, rfl⟩ :=
              Schema.failsOnly_objects found parts nested arguments e outcome
            exact ⟨reason, rfl⟩

theorem compileWith_of_isExact (builtIn : k.object? "String.length" = none) (nested : Compiler)
    (named : schemaOf? arguments = some "String.length") {n : Nat} (exact : IsExact arguments n) :
    compileWith k nested (map arguments) = .ok (.stringLength (some n) (some n)) := by
  rw [compileWith_schema builtIn (by decide) rfl named]
  exact Schema.stringLength_of_isExact nested exact

/-- The parts of `and` have to compile where they stand. -/
theorem exists_compileWith_of_wellTyped (builtIn : k.object? name = none) (nested : Compiler)
    (named : schemaOf? arguments = some name) (known : name ∈ Schema.objects.map Prod.fst)
    (typed : WellTyped name arguments)
    (parts : name = "and" → ∀ parts, arguments.lookup "forAll" = some (sequence parts) →
      ∀ p ∈ parts, ∃ m, compileWith k nested p = .ok m) :
    ∃ m, compileWith k nested (map arguments) = .ok m := by
  by_cases isAnd : name = "and"
  · subst isAnd
    obtain ⟨members, given⟩ := typed.parts rfl
    obtain ⟨ms, compiled⟩ := Traversal.exists_mapM_eq_ok_iff.mpr (parts rfl members given)
    rw [compileWith_and builtIn named, parts?_eq_some_iff.mpr given]
    exact ⟨.arrayAnd ms, by simp only [compiled]; rfl⟩
  · cases found : Schema.objects.lookup name with
    | none => exact absurd known (Entries.lookup_eq_none_iff.mp found)
    | some schema =>
        by_cases exact : name = "String.length" ∧ ∃ n, IsExact arguments n
        · obtain ⟨rfl, n, exact⟩ := exact
          exact ⟨_, compileWith_of_isExact builtIn nested named exact⟩
        · rw [compileWith_schema builtIn isAnd found named]
          exact (Schema.exists_objects_iff found isAnd nested
            fun same n given => exact ⟨same, n, given⟩).mpr typed

/-- A map that names a built-in schema is refused in the name of that schema if its arguments are
not what is documented, unless a length is given exactly: then the bounds are not looked at. With
the documented arguments it compiles, as far as the parts of `and` do. -/
theorem compile_of_arguments (named : schemaOf? arguments = some name)
    (known : name ∈ Schema.objects.map Prod.fst)
    (shallow : depth (map arguments) ≤ maxPatternDepth) :
    (¬ WellTyped name arguments → (name = "String.length" → ∀ n, ¬ IsExact arguments n) →
      ∃ reason, compile .empty (map arguments) = .error (.invalidSchemaArgument name reason)) ∧
    (name = "String.length" → ∀ n, IsExact arguments n →
      compile .empty (map arguments) = .ok (.stringLength (some n) (some n))) ∧
    (WellTyped name arguments →
      (name = "and" → ∀ parts, arguments.lookup "forAll" = some (sequence parts) →
        ∀ p ∈ parts, ∃ m, compile .empty p = .ok m) →
      ∃ m, compile .empty (map arguments) = .ok m) := by
  rw [compile_of_depth_le _ shallow, compileUnchecked_eq]
  refine ⟨?_, ?_, ?_⟩
  · intro illTyped inexact
    exact compileWith_of_not_wellTyped rfl _ named known inexact illTyped
  · rintro rfl n exact
    exact compileWith_of_isExact rfl _ named exact
  · intro typed parts
    apply exists_compileWith_of_wellTyped rfl _ named known typed
    intro isAnd members given p mem
    obtain ⟨m, compiled⟩ := parts isAnd members given p mem
    exact ⟨m, (compile_eq_ok_iff.mp compiled).2⟩

/-- A bound with a point, which a length refuses without an exact one only, and two parts of
`and`. -/
theorem compile_of_arguments_mixed :
    let one : Pattern := .number (.float 1.0 (by decide +kernel))
    let name : String × Pattern := ("$", .string "String.length")
    let bounds : Schema.Arguments := [name, ("eq", .null), ("min", one)]
    let exact : Schema.Arguments := [name, ("eq", .number (.ofNat 6)), ("min", one)]
    let both : Schema.Arguments :=
      [("$", .string "and"), ("forAll", .sequence [.map exact, .sequence []])]
    (∃ reason,
      compile .empty (map bounds) = .error (.invalidSchemaArgument "String.length" reason)) ∧
      compile .empty (map exact) = .ok (.stringLength (some 6) (some 6)) ∧
      ∃ m, compile .empty (map both) = .ok m := by
  intro one name bounds exact both
  have point (b : Option Nat) : ¬ Schema.IsBound (some one) b := by
    simp only [one]
    rintro ⟨⟩
  have six : IsExact exact 6 := .natural 6 (by decide) (by decide)
  have exactNamed : schemaOf? exact = some "String.length" := rfl
  have boundsNamed : schemaOf? bounds = some "String.length" := rfl
  have bothNamed : schemaOf? both = some "and" := rfl
  have compiled := (compile_of_arguments exactNamed (by decide) (by decide)).2.1 rfl 6 six
  refine ⟨?_, compiled, ?_⟩
  · refine (compile_of_arguments boundsNamed (by decide) (by decide)).1 ?_ ?_
    · intro typed
      obtain ⟨b, read⟩ := typed.bounds rfl "min" (by decide)
      exact point b read
    · intro _ n given
      cases given
  · have typed : WellTyped "and" both := by
      simpa [Schema.wellTyped_iff] using ⟨_, rfl⟩
    refine (compile_of_arguments bothNamed (by decide) (by decide)).2.2 typed ?_
    intro _ parts given p mem
    cases given
    rcases List.mem_pair.mp mem with rfl | rfl
    · exact ⟨_, compiled⟩
    · exact ⟨_, rfl⟩

/-- Not every argument that is ill-typed is refused. -/
theorem exists_illTyped_compiled :
    ∃ (arguments : Schema.Arguments) (m : Matcher),
      schemaOf? arguments = some "String.length" ∧ depth (map arguments) ≤ maxPatternDepth ∧
        ¬ WellTyped "String.length" arguments ∧ compile .empty (map arguments) = .ok m := by
  refine ⟨[("$", .string "String.length"), ("eq", .number (.ofNat 6)),
    ("min", .number (.int (-1) (by decide) (by decide)))], _, rfl, by decide, ?_, rfl⟩
  intro typed
  obtain ⟨b, read⟩ := typed.bounds rfl "min" (by decide)
  cases read

end Pattern

end Semblance
