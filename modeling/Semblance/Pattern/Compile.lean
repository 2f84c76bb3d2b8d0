import Semblance.Schema

/-!
# From patterns to matchers

Primitive patterns match what equals them. Strings and maps may name a schema, which is looked for
in the registry and then among the built-in ones. A list is a choice of its members, but a list
that holds nothing but a list asks for the inner members in order.

Schemas of the registry may compile patterns that their argument does not contain, so the compiler
they are given counts how often they are entered one within the other.
-/

namespace Semblance.Pattern

/-- Cut a string at its first colon. -/
def schemaBody? (s : String) : Option (String × String) :=
  let cs := s.toList
  match cs.dropWhile (· ≠ ':') with
  | _ :: body => some (String.ofList (cs.takeWhile (· ≠ ':')), String.ofList body)
  | [] => none

/-- The schema for a string, and what it is applied to. -/
def stringSchema? (k : Knowledge) (s : String) : Option (StringSchema × String) := do
  let (name, body) ← schemaBody? s
  let schema ← (k.string? name).or (Schema.strings.lookup name)
  return (schema, body)

/-- A string is a schema with its body, or else stands for itself. -/
def compileString (k : Knowledge) (nested : Compiler) (s : String) :
    Except CompileError Matcher :=
  match stringSchema? k s with
  | some (schema, body) => schema nested body
  | none => .ok (.equal (.string s))

mutual

/-- Compile a pattern; `nested` compiles patterns for the schemas of the registry. -/
def compileWith (k : Knowledge) (nested : Compiler) : Pattern → Except CompileError Matcher
  | null => .ok .null
  | bool b => .ok (.equal (.bool b))
  | number n => .ok (.equal (.number n))
  | string s => compileString k nested s
  | regex r => .ok (.regexp { regex := r })
  | tester t => .ok (.custom t)
  | sequence [sequence points] => do return .arrayFit (← compileItems k nested points)
  | sequence members => do return .ofAlternatives (← compileItems k nested members)
  | map entries =>
      match schemaOf? entries with
      | none => do return .allOf (← compileEntries k nested entries)
      | some name =>
          match k.object? name with
          | some schema => schema nested entries
          | none =>
              -- The parts of `and` lie within the pattern, so they need no further level.
              if name = "and" then do return .arrayAnd (← compileParts k nested entries)
              else
                match Schema.objects.lookup name with
                | some schema => schema nested entries
                | none => .error (.unknownObjectSchema name)

/-- Compile patterns in order, up to the first that does not compile. -/
def compileItems (k : Knowledge) (nested : Compiler) :
    List Pattern → Except CompileError (List Matcher)
  | [] => .ok []
  | item :: rest => do
      let m ← compileWith k nested item
      let ms ← compileItems k nested rest
      return m :: ms

def compileEntries (k : Knowledge) (nested : Compiler) :
    List (String × Pattern) → Except CompileError (List (String × Matcher))
  | [] => .ok []
  | (key, value) :: rest => do
      let m ← compileWith k nested value
      let ms ← compileEntries k nested rest
      return (key, m) :: ms

/-- Compile the list that the built-in schema `and` has among its arguments. -/
def compileParts (k : Knowledge) (nested : Compiler) :
    List (String × Pattern) → Except CompileError (List Matcher)
  | [] => .error Schema.missingParts
  | (key, value) :: rest =>
      if key = "forAll" then compileList k nested value else compileParts k nested rest

/-- Compile the members of a list. -/
def compileList (k : Knowledge) (nested : Compiler) : Pattern → Except CompileError (List Matcher)
  | sequence items => compileItems k nested items
  | _ => .error Schema.missingParts

end

theorem compileItems_eq_mapM (k : Knowledge) (nested : Compiler) (items : List Pattern) :
    compileItems k nested items = items.mapM (compileWith k nested) := by
  induction items with
  | nil => rfl
  | cons item rest ih => rw [compileItems, List.mapM_cons, ih]

theorem compileParts_eq_lookup (k : Knowledge) (nested : Compiler)
    (entries : List (String × Pattern)) :
    compileParts k nested entries =
      match entries.lookup "forAll" with
      | some value => compileList k nested value
      | none => .error Schema.missingParts := by
  induction entries with
  | nil => rw [compileParts, List.lookup_nil]
  | cons entry rest ih =>
      obtain ⟨key, value⟩ := entry
      rw [compileParts, List.lookup_cons]
      by_cases h : key = "forAll"
      · rw [if_pos h, h, beq_self_eq_true]
      · rw [if_neg h, ih, beq_eq_false_iff_ne.mpr (Ne.symm h)]

/-- Compile a pattern in which schemas are entered at most `levels` times one within the other. -/
def compileWithin (k : Knowledge) : Nat → Compiler
  | 0 => compileWith k fun _ => .error .schemaNesting
  | levels + 1 => compileWith k (compileWithin k levels)

/-- Compile a pattern that need not be checked for depth. -/
def compileUnchecked (k : Knowledge) : Compiler := compileWithin k maxSchemaNesting

/-- Check the depth of a pattern before it is compiled. -/
def checked (compile : Compiler) : Compiler := fun p =>
  match checkPatternDepth p.depth with
  | .error error => .error (.limit error)
  | .ok () => compile p

/-- Compile a pattern into a matcher. -/
def compile (k : Knowledge) (p : Pattern) : Except CompileError Matcher :=
  checked (compileUnchecked k) p

end Semblance.Pattern
