import Semblance.Proofs.Matcher.Verdicts
import Semblance.Proofs.Pattern.Errors
import Semblance.Proofs.Pattern.Replacement
import Semblance.Proofs.Pattern.StringSchema

/-!
# Broken leaves

A regular expression or an expression that cannot be read does not keep the pattern around it from
compiling. The leaf accepts nothing, and nothing else about the pattern changes: a tester in its
place that accepts nothing leads to the same verdicts, and to the same error if there is one.
-/

namespace Semblance.Pattern

open Matcher (SameVerdicts SameField)
open Traversal (Related)

/-- A string whose schema can do nothing with the body. -/
inductive IsBroken : Knowledge → String → Prop where
  | regexp (k : Knowledge) {body : String} {fault : RegexFault}
      (malformed : RegexTest.parse body = .error fault) : IsBroken k ("Regexp" ++ ":" ++ body)
  | expression (ns : Namespace) {body : String} {error : Expr.CompileError}
      (malformed : Expression.compile body [Expression.subjectName] = .error error) :
      IsBroken (.withExpressions ns) ("expr" ++ ":" ++ body)

variable {k : Knowledge} {nested : Compiler} {s : String} {t : Tester} {p q : Pattern}

theorem compileWith_of_isBroken (stock : k.IsStock) (nested : Compiler) (broken : IsBroken k s) :
    compileWith k nested (string s) = .ok .never := by
  rw [compileWith, compileString]
  cases broken with
  | @regexp _ body _ malformed =>
      have unregistered : k.string? "Regexp" = none := by
        cases stock <;> rfl
      rw [stringSchema?_append k (by decide), unregistered]
      simp only [Schema.strings, List.lookup_cons_self, Option.none_or, Option.map_some,
        Schema.regexp, malformed]
  | @expression ns body _ malformed =>
      have registered : (Knowledge.withExpressions ns).string? "expr" =
        some (Schema.expression ns) := rfl
      rw [stringSchema?_append _ (by decide), registered]
      simp only [Option.some_or, Option.map_some, Schema.expression, malformed]

/-! ## Any leaves that give the same verdicts -/

/-- Parts that differ in one place compile alike if they do so in this place. -/
theorem related_mapM_compileWith
    (here : Related SameVerdicts (compileWith k nested p) (compileWith k nested q))
    (before after : List Pattern) :
    Related (List.Forall₂ SameVerdicts) ((before ++ p :: after).mapM (compileWith k nested))
      ((before ++ q :: after).mapM (compileWith k nested)) := by
  apply Traversal.related_mapM
  apply Traversal.forall₂_append_cons
  · intro other
    exact .refl SameVerdicts.refl _
  · exact here

theorem related_mapM_compileEntry
    (here : Related SameVerdicts (compileWith k nested p) (compileWith k nested q)) (key : String)
    (before after : List (String × Pattern)) :
    Related (List.Forall₂ SameField) ((before ++ (key, p) :: after).mapM (compileEntry k nested))
      ((before ++ (key, q) :: after).mapM (compileEntry k nested)) := by
  apply Traversal.related_mapM
  apply Traversal.forall₂_append_cons
  · intro other
    exact .refl SameField.refl _
  · exact here.map fun m n same => ⟨rfl, same⟩

/-- What the two leaves compile to makes no difference at any position, if it gives the same
verdicts. -/
theorem Replaced.related_compileWith (replaced : Replaced s t p q)
    (builtIn : k.object? "and" = none)
    (leaf : Related SameVerdicts (compileWith k nested (string s))
      (compileWith k nested (tester t))) :
    Related SameVerdicts (compileWith k nested p) (compileWith k nested q) := by
  -- The parts beside the one that differs are the same on both sides, and compile in the same order,
  -- so that an error of one of them is the error of both.
  induction replaced with
  | here => exact leaf
  | member notFit inner ih =>
      rw [compileWith_sequence k nested notFit, compileWith_sequence k nested (inner.notFit notFit)]
      exact (related_mapM_compileWith ih ..).map fun _ _ => Matcher.sameVerdicts_ofAlternatives
  | point _ ih =>
      rw [compileWith_fit, compileWith_fit]
      exact (related_mapM_compileWith ih ..).map fun _ _ => Matcher.sameVerdicts_arrayFit
  | field plain inner ih =>
      rw [compileWith_fields plain, compileWith_fields (inner.plain plain)]
      exact (related_mapM_compileEntry ih ..).map fun _ _ => Matcher.sameVerdicts_allOf
  | part schema found _ ih =>
      rw [compileWith_and builtIn schema, compileWith_and builtIn (schemaOf?_forAll schema _),
        parts?_forAll found, parts?_forAll found]
      exact (related_mapM_compileWith ih ..).map fun _ _ => Matcher.sameVerdicts_arrayAnd

/-! ## Broken leaves -/

theorem compile_of_isBroken (stock : k.IsStock) (broken : IsBroken k s) :
    compile k (string s) = .ok .never := by
  have shallow : depth (string s) ≤ maxPatternDepth := by
    show 1 ≤ maxPatternDepth
    decide
  rw [compile_of_depth_le k shallow, compileUnchecked_eq, compileWith_of_isBroken stock _ broken]

/-- A broken leaf compiles to what accepts nothing, it is contained wherever it stands, and no
pattern fails for a regular expression. -/
theorem compile_replaced_of_isBroken (stock : k.IsStock) :
    (∀ s : String, IsBroken k s → compile k (string s) = .ok .never) ∧
      (∀ (s : String) (t : Tester) (p q : Pattern), IsBroken k s → (∀ v, t.accepts v = false) →
        Replaced s t p q → Related SameVerdicts (compile k p) (compile k q)) ∧
      ∀ (p : Pattern) (body : String) (fault : RegexFault),
        compile k p ≠ .error (.invalidRegex body fault) := by
  refine ⟨fun s broken => compile_of_isBroken stock broken, ?_, ?_⟩
  · intro s t p q broken rejects replaced
    by_cases shallow : p.depth ≤ maxPatternDepth
    · rw [compile_of_depth_le k shallow, compile_of_depth_le k (replaced.depth_eq ▸ shallow),
        compileUnchecked_eq]
      apply replaced.related_compileWith (stock.object? "and")
      rw [compileWith_of_isBroken stock _ broken]
      exact .ok (Matcher.sameVerdicts_never rejects)
    · have deep : maxPatternDepth < p.depth := Nat.lt_of_not_le shallow
      -- Both are refused before anything is compiled, with the same depth in the error.
      rw [compile_of_lt_depth k deep, compile_of_lt_depth k (replaced.depth_eq ▸ deep),
        replaced.depth_eq]
      exact .error _
  · intro p body fault failed
    rcases error_of_compile stock failed with same | blames
    · cases same
    · cases blames

/-- A point of a fit, which is a part of `and`. -/
theorem compile_replaced_of_isBroken_nested :
    let k : Knowledge := .withExpressions .empty
    let s : String := "Regexp" ++ ":" ++ "/a(/"
    let t : Tester := { description := "none", accepts := fun _ => false }
    let around (leaf : Pattern) : Pattern := map [("$", string "and"),
      ("forAll", sequence [sequence [sequence [bool true, leaf]]])]
    let m : Matcher := .arrayAnd [.arrayFit [.equal (.bool true), .never]]
    k.IsStock ∧ IsBroken k s ∧ (∀ v, t.accepts v = false) ∧
      Replaced s t (around (string s)) (around (tester t)) ∧
      compile k (around (string s)) = .ok m ∧
      ∃ n, compile k (around (tester t)) = .ok n ∧ SameVerdicts m n := by
  intro k s t around m
  have stock : k.IsStock := .withExpressions .empty
  have malformed : RegexTest.parse "/a(/" = .error .rejectedSource := rfl
  have broken : IsBroken k s := .regexp k malformed
  have rejects (v : Value) : t.accepts v = false := rfl
  have replaced : Replaced s t (around (string s)) (around (tester t)) := by
    have point := @Replaced.point s t [bool true] [] _ _ .here
    exact @Replaced.part s t [("$", string "and")] [] [] [] _ _ rfl rfl point
  have compiled : compile k (around (string s)) = .ok m := by
    refine compile_eq_ok_iff.mpr ⟨by decide, ?_⟩
    rw [compileUnchecked_eq, compileWith_and rfl rfl]
    generalize compileWithin k (maxSchemaNesting - 1) = nested
    have leaf : compileWith k nested (string s) = .ok .never :=
      compileWith_of_isBroken stock nested broken
    have points : [bool true, string s].mapM (compileWith k nested) =
        .ok [.equal (.bool true), .never] := by
      rw [Traversal.mapM_eq_ok_iff, List.map_cons, List.map_cons, leaf]
      rfl
    have fit : compileWith k nested (sequence [sequence [bool true, string s]]) =
        .ok (.arrayFit [.equal (.bool true), .never]) := by
      rw [compileWith_fit, points]
      rfl
    exact congrArg (Except.map Matcher.arrayAnd) (Traversal.mapM_cons_ok fit [])
  refine ⟨stock, broken, rejects, replaced, compiled, ?_⟩
  have related := (compile_replaced_of_isBroken stock).2.1 s t _ _ broken rejects replaced
  rw [compiled] at related
  generalize compile k (around (tester t)) = other at related
  cases related with
  | ok same => exact ⟨_, rfl, same⟩

end Semblance.Pattern
