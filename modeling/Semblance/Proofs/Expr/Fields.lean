import Semblance.Proofs.Expr.References
import Semblance.Proofs.Pattern.Shapes
import Semblance.Proofs.Pattern.StringSchema
import Semblance.Schema.Expression

/-!
# Bare fields

An expression about a map may name the entries of the map on their own. A bare name is short for the
member of that name: writing all of them out gives an expression that needs no bindings but the
subject, and has the same value or the same error.
-/

namespace Semblance

namespace Expr

/-! ## Substitution -/

mutual

/-- Put expressions in the place of names. The names of functions stay. -/
def substitute (σ : String → Expr) : Expr → Expr
  | literal value => literal value
  | identifier name => σ name
  | array items => array (substituteItems σ items)
  | object entries => object (substituteEntries σ entries)
  | member subject property => member (subject.substitute σ) (property.substitute σ)
  | call function args => call function (substituteItems σ args)
  | unary op operand => unary op (operand.substitute σ)
  | binary op left right => binary op (left.substitute σ) (right.substitute σ)
  | logical op left right => logical op (left.substitute σ) (right.substitute σ)
  | conditional test consequent alternate =>
      conditional (test.substitute σ) (consequent.substitute σ) (alternate.substitute σ)

def substituteItems (σ : String → Expr) : List Expr → List Expr
  | [] => []
  | item :: rest => item.substitute σ :: substituteItems σ rest

def substituteEntries (σ : String → Expr) : List (String × Expr) → List (String × Expr)
  | [] => []
  | (key, value) :: rest => (key, value.substitute σ) :: substituteEntries σ rest

end

variable {σ : String → Expr} {s t : Scope}

/-- Moving from one scope to another, what stands in the place of a name has the value of the name,
and a function is the same. -/
def Reference.IsMoved (σ : String → Expr) (s t : Scope) : Reference → Prop
  | value name => (σ name).eval t = s.valueOf name
  | function name => t.ns.function? name = s.ns.function? name

theorem evalItems_substitute {items : List Expr}
    (each : ∀ ref ∈ referencesOfItems items, ref.IsMoved σ s t)
    (item : ∀ e ∈ items, (∀ ref ∈ e.references, ref.IsMoved σ s t) →
      (e.substitute σ).eval t = e.eval s) :
    evalItems t (substituteItems σ items) = evalItems s items := by
  induction items with
  | nil => rfl
  | cons e rest ih =>
      rw [referencesOfItems, List.forall_mem_append] at each
      obtain ⟨first, later⟩ := List.forall_mem_cons.mp item
      rw [substituteItems, evalItems, evalItems, first each.1, ih each.2 later]

theorem evalEntries_substitute {entries : List (String × Expr)}
    (each : ∀ ref ∈ referencesOfEntries entries, ref.IsMoved σ s t)
    (entry : ∀ e ∈ entries, (∀ ref ∈ e.2.references, ref.IsMoved σ s t) →
      (e.2.substitute σ).eval t = e.2.eval s) :
    evalEntries t (substituteEntries σ entries) = evalEntries s entries := by
  induction entries with
  | nil => rfl
  | cons e rest ih =>
      obtain ⟨key, value⟩ := e
      rw [referencesOfEntries, List.forall_mem_append] at each
      obtain ⟨first, later⟩ := List.forall_mem_cons.mp entry
      rw [substituteEntries, evalEntries, evalEntries, first each.1, ih each.2 later]

/-- Substitution moves an evaluation from one scope to another. -/
theorem eval_substitute {e : Expr} (each : ∀ ref ∈ e.references, ref.IsMoved σ s t) :
    (e.substitute σ).eval t = e.eval s := by
  induction e with
  | literal value => rfl
  | identifier name => exact each (.value name) (List.mem_singleton_self _)
  | array items ih => rw [substitute, eval, eval, evalItems_substitute each ih]
  | object entries ih => rw [substitute, eval, eval, evalEntries_substitute each ih]
  | member subject property subjectIh propertyIh =>
      rw [references, List.forall_mem_append] at each
      rw [substitute, eval, eval, subjectIh each.1, propertyIh each.2]
  | call function args ih =>
      rw [references, List.forall_mem_cons] at each
      have same : t.ns.function? function = s.ns.function? function := each.1
      have native : t.call function = s.call function := by
        funext values
        rw [Scope.call, Scope.call, same]
      rw [substitute, eval, eval, evalItems_substitute each.2 ih, native]
  | unary op operand ih => rw [substitute, eval, eval, ih each]
  | binary op left right leftIh rightIh =>
      rw [references, List.forall_mem_append] at each
      rw [substitute, eval, eval, leftIh each.1, rightIh each.2]
  | logical op left right leftIh rightIh =>
      rw [references, List.forall_mem_append] at each
      rw [substitute, eval, eval, leftIh each.1, rightIh each.2]
  | conditional test consequent alternate testIh consequentIh alternateIh =>
      rw [references, List.forall_mem_append, List.forall_mem_append] at each
      rw [substitute, eval, eval, testIh each.1.1, consequentIh each.1.2, alternateIh each.2]

/-- What an expression refers to after a substitution, in the place of a reference. -/
def Reference.substitute (σ : String → Expr) : Reference → List Reference
  | value name => (σ name).references
  | function name => [.function name]

theorem referencesOfItems_substitute {items : List Expr}
    (item : ∀ e ∈ items, (e.substitute σ).references = e.references.flatMap (·.substitute σ)) :
    referencesOfItems (substituteItems σ items) =
      (referencesOfItems items).flatMap (·.substitute σ) := by
  induction items with
  | nil => rfl
  | cons e rest ih =>
      obtain ⟨first, later⟩ := List.forall_mem_cons.mp item
      rw [substituteItems, referencesOfItems, referencesOfItems, List.flatMap_append, first,
        ih later]

theorem referencesOfEntries_substitute {entries : List (String × Expr)}
    (entry : ∀ e ∈ entries,
      (e.2.substitute σ).references = e.2.references.flatMap (·.substitute σ)) :
    referencesOfEntries (substituteEntries σ entries) =
      (referencesOfEntries entries).flatMap (·.substitute σ) := by
  induction entries with
  | nil => rfl
  | cons e rest ih =>
      obtain ⟨key, value⟩ := e
      obtain ⟨first, later⟩ := List.forall_mem_cons.mp entry
      rw [substituteEntries, referencesOfEntries, referencesOfEntries, List.flatMap_append, first,
        ih later]

theorem references_substitute (e : Expr) :
    (e.substitute σ).references = e.references.flatMap (·.substitute σ) := by
  induction e with
  | literal value => rfl
  | identifier name => exact (List.append_nil _).symm
  | array items ih => exact referencesOfItems_substitute ih
  | object entries ih => exact referencesOfEntries_substitute ih
  | member subject property subjectIh propertyIh =>
      rw [substitute, references, references, List.flatMap_append, subjectIh, propertyIh]
  | call function args ih =>
      rw [substitute, references, references, List.flatMap_cons, referencesOfItems_substitute ih]
      rfl
  | unary op operand ih => exact ih
  | binary op left right leftIh rightIh =>
      rw [substitute, references, references, List.flatMap_append, leftIh, rightIh]
  | logical op left right leftIh rightIh =>
      rw [substitute, references, references, List.flatMap_append, leftIh, rightIh]
  | conditional test consequent alternate testIh consequentIh alternateIh =>
      rw [substitute, references, references, List.flatMap_append, List.flatMap_append, testIh,
        consequentIh, alternateIh]

/-! ## Members of the subject -/

/-- A name written out: the subject itself, or the member of the subject that has the name. -/
def memberNamed (name : String) : Expr :=
  if name = Expression.subjectName then .identifier name
  else .member (.identifier Expression.subjectName) (.literal (.string name))

/-- Write all names out. -/
def desugar (e : Expr) : Expr := e.substitute memberNamed

/-- No name is left but the one of the subject. -/
theorem eq_subjectName_of_desugar {e : Expr} {name : String}
    (mem : .value name ∈ e.desugar.references) : name = Expression.subjectName := by
  rw [desugar, references_substitute, List.mem_flatMap] at mem
  obtain ⟨ref, -, mem⟩ := mem
  cases ref with
  | function other => cases List.mem_singleton.mp mem
  | value other =>
      rw [Reference.substitute, memberNamed] at mem
      split at mem
      · rename_i subject
        cases List.mem_singleton.mp mem
        exact subject
      · cases List.mem_singleton.mp mem
        rfl

variable {fields : List (String × Value)} {ns : Namespace}

/-- Where a name of the subject's entries is looked up among the locals, the member is looked up in
the subject, and no namespace is asked. -/
theorem isMoved_memberNamed {ref : Reference}
    (named : ∀ name, ref = .value name → name ≠ Expression.subjectName →
      (fields.lookup name).isSome = true) :
    ref.IsMoved memberNamed
      { params := [Expression.subjectName], args := [.object fields], locals := fields, ns }
      { params := [Expression.subjectName], args := [.object fields], locals := [], ns } := by
  cases ref with
  | function name => rfl
  | value name =>
      rw [Reference.IsMoved, memberNamed]
      by_cases subject : name = Expression.subjectName
      · subst subject
        rfl
      · obtain ⟨v, found⟩ := Option.isSome_iff_exists.mp (named name rfl subject)
        have member : (Value.object fields).member (.string name) = .ok v := by
          rw [Value.member, Value.toText, found]
        rw [if_neg subject, Scope.valueOf, Scope.resolve?]
        simp only [Scope.argument?, if_neg (Ne.symm subject), Option.none_or, found,
          Option.some_or]
        exact member

end Expr

namespace Expression

variable {tree : Expr} {fields : List (String × Value)}

theorem accepts_tester (e : Expression) (ns : Namespace) (subject : Value) :
    (e.tester ns).accepts subject =
      match e.evalSubject subject ns with
      | .ok result => result.truthy
      | .error _ => false := rfl

/-- An expression accepts a subject when it has a value there, and one that holds. -/
theorem test_tester (e : Expression) (ns : Namespace) (subject : Value) :
    (Matcher.custom (e.tester ns)).test subject = true ↔
      ∃ result, e.evalSubject subject ns = .ok result ∧ result.truthy = true := by
  rw [Matcher.test, accepts_tester]
  cases e.evalSubject subject ns with
  | ok result => simp only [Except.ok.injEq, exists_eq_left']
  | error e => simp only [reduceCtorEq, false_and, exists_false, Bool.false_eq_true]

/-- A string that asks for an expression is compiled into the test of the expression. -/
theorem compile_expr {body : String} {e : Expression} (compiled : compile body [subjectName] = .ok e)
    (ns : Namespace) :
    Pattern.compile (.withExpressions ns) (.string ("expr" ++ ":" ++ body)) =
      .ok (.custom (e.tester ns)) := by
  have registered : (Knowledge.withExpressions ns).string? "expr" = some (Schema.expression ns) :=
    rfl
  have shallow : (Pattern.string ("expr" ++ ":" ++ body)).depth ≤ maxPatternDepth := by
    simp [Pattern.depth, maxPatternDepth]
  rw [Pattern.compile_of_depth_le _ shallow, Pattern.compileUnchecked_eq]
  change Pattern.compileString _ _ ("expr" ++ ":" ++ body) = _
  rw [Pattern.compileString, Pattern.stringSchema?_append _ (by decide), registered]
  simp only [Option.some_or, Option.map_some]
  rw [Schema.expression, compiled]

/-- An expression in which every name is the subject or an entry of it has the same value or error as
with all names written out as members. So a string that asks for the expression accepts the subject
when the expression that is written out has a value that holds. -/
theorem evalWithLocals_eq_eval_desugar
    (named : ∀ name, .value name ∈ tree.references → name ≠ subjectName →
      (fields.lookup name).isSome = true) (ns : Namespace) :
    (∀ source, (⟨source, [subjectName], tree⟩ : Expression).evalWithLocals [.object fields] fields
        ns = (⟨source, [subjectName], tree.desugar⟩ : Expression).eval [.object fields] ns) ∧
      (∀ name, .value name ∈ tree.desugar.references → name = subjectName) ∧
      ∀ body, compile body [subjectName] = .ok ⟨body, [subjectName], tree⟩ →
        ∃ m, Pattern.compile (.withExpressions ns) (.string ("expr" ++ ":" ++ body)) = .ok m ∧
          (m.test (.object fields) = true ↔
            ∃ result, (⟨body, [subjectName], tree.desugar⟩ : Expression).eval [.object fields] ns =
              .ok result ∧ result.truthy = true) := by
  have same (source : String) :
      (⟨source, [subjectName], tree⟩ : Expression).evalWithLocals [.object fields] fields ns =
        (⟨source, [subjectName], tree.desugar⟩ : Expression).eval [.object fields] ns := by
    refine (Expr.eval_substitute fun ref mem => Expr.isMoved_memberNamed ?_).symm
    rintro name rfl
    exact named name mem
  refine ⟨same, fun name => Expr.eq_subjectName_of_desugar, fun body compiled => ?_⟩
  refine ⟨_, compile_expr compiled ns, ?_⟩
  rw [test_tester, ← same body]
  rfl

/-- The entries hide a field of the namespace, and what the name of a length says of a map. -/
theorem evalWithLocals_eq_eval_desugar_shadowed :
    ∃ tree, compile "length < limit && has(_, 'limit')" [subjectName] =
        .ok ⟨"length < limit && has(_, 'limit')", [subjectName], tree⟩ ∧
      (∀ name, .value name ∈ tree.references → name ≠ subjectName →
        (List.lookup name [("length", Value.ofNat 3), ("limit", .ofNat 5)]).isSome = true) ∧
      ∃ m, Pattern.compile (.withExpressions { fields := [("limit", .ofNat 1)] })
          (.string ("expr" ++ ":" ++ "length < limit && has(_, 'limit')")) = .ok m ∧
        m.test (.object [("length", .ofNat 3), ("limit", .ofNat 5)]) = true := by
  let tree : Expr :=
    .logical .and (.binary .less (.identifier "length") (.identifier "limit"))
      (.call "has" [.identifier "_", .literal (.string "limit")])
  have compiled : compile "length < limit && has(_, 'limit')" [subjectName] =
      .ok ⟨"length < limit && has(_, 'limit')", [subjectName], tree⟩ := by
    cbv
  have named : ∀ name, .value name ∈ tree.references → name ≠ subjectName →
      (List.lookup name [("length", Value.ofNat 3), ("limit", .ofNat 5)]).isSome = true := by
    intro name mem
    have cases : name = "length" ∨ name = "limit" ∨ name = "_" := by
      simpa [tree, Expr.references, Expr.referencesOfItems] using mem
    obtain rfl | rfl | rfl := cases
    · exact fun _ => rfl
    · exact fun _ => rfl
    · exact fun other => absurd rfl other
  obtain ⟨-, -, accepts⟩ := evalWithLocals_eq_eval_desugar named { fields := [("limit", .ofNat 1)] }
  obtain ⟨m, ok, holds⟩ := accepts _ compiled
  exact ⟨tree, compiled, named, m, ok, holds.mpr ⟨.bool true, rfl, rfl⟩⟩

end Expression

end Semblance
