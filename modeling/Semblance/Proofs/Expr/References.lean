import Semblance.Expr.Eval

/-!
# What an evaluation depends on

A scope takes part in an evaluation in two ways only: a name is resolved, or a function is called.
So how two scopes relate on the names and functions that an expression refers to, evaluations in them
relate, as long as the relation is kept from one step to the next. With equality for the relation
this says that evaluation sees nothing of a scope but what the expression refers to.
-/

namespace Semblance

namespace Expr

/-- An induction on expressions reaches the items of a list, the values of a map and the arguments
of a call. -/
@[elab_as_elim, induction_eliminator]
theorem induction {P : Expr → Prop} (literal : ∀ value, P (literal value))
    (identifier : ∀ name, P (identifier name))
    (array : ∀ items, (∀ e ∈ items, P e) → P (array items))
    (object : ∀ entries, (∀ entry ∈ entries, P entry.2) → P (object entries))
    (member : ∀ subject property, P subject → P property → P (member subject property))
    (call : ∀ function args, (∀ e ∈ args, P e) → P (call function args))
    (unary : ∀ op operand, P operand → P (unary op operand))
    (binary : ∀ op left right, P left → P right → P (binary op left right))
    (logical : ∀ op left right, P left → P right → P (logical op left right))
    (conditional : ∀ test consequent alternate, P test → P consequent → P alternate →
      P (conditional test consequent alternate)) (e : Expr) : P e :=
  @Expr.rec P (fun items => ∀ e ∈ items, P e) (fun entries => ∀ entry ∈ entries, P entry.2)
    (fun entry => P entry.2) literal identifier array object member call unary binary logical
    conditional nofun (fun _ _ first later => List.forall_mem_cons.mpr ⟨first, later⟩) nofun
    (fun _ _ first later => List.forall_mem_cons.mpr ⟨first, later⟩) (fun _ _ value => value) e

/-! ## References -/

/-- What an expression asks its scope for. -/
inductive Reference where
  | value (name : String)
  | function (name : String)
  deriving DecidableEq, Repr

mutual

/-- All references that occur in an expression, those that an evaluation leaves out included. -/
def references : Expr → List Reference
  | literal _ => []
  | identifier name => [.value name]
  | array items => referencesOfItems items
  | object entries => referencesOfEntries entries
  | member subject property => subject.references ++ property.references
  | call function args => .function function :: referencesOfItems args
  | unary _ operand => operand.references
  | binary _ left right => left.references ++ right.references
  | logical _ left right => left.references ++ right.references
  | conditional test consequent alternate =>
      test.references ++ consequent.references ++ alternate.references

def referencesOfItems : List Expr → List Reference
  | [] => []
  | item :: rest => item.references ++ referencesOfItems rest

def referencesOfEntries : List (String × Expr) → List Reference
  | [] => []
  | (_, value) :: rest => value.references ++ referencesOfEntries rest

end

end Expr

/-- The value of a name, or the error that there is none. -/
def Scope.valueOf (s : Scope) (name : String) : Except EvalError Value :=
  match s.resolve? name with
  | some value => .ok value
  | none => .error (.unknownIdentifier name)

namespace Expr

/-! ## Two evaluations step by step -/

/-- A relation between results that is kept from step to step: it relates what is the same, and what
goes on in related ways from related results. -/
structure IsStepwise (R : ∀ {α : Type}, Except EvalError α → Except EvalError α → Prop) : Prop where
  refl : ∀ {α : Type} (x : Except EvalError α), R x x
  bind : ∀ {α β : Type} {x y : Except EvalError α} {f g : α → Except EvalError β}, R x y →
    (∀ a, R (f a) (g a)) → R (x >>= f) (y >>= g)

/-- What a reference gives in two scopes is related. -/
def Reference.IsRelated (R : ∀ {α : Type}, Except EvalError α → Except EvalError α → Prop)
    (s t : Scope) : Reference → Prop
  | value name => R (s.valueOf name) (t.valueOf name)
  | function name => ∀ args, R (s.call name args) (t.call name args)

variable {R : ∀ {α : Type}, Except EvalError α → Except EvalError α → Prop} {s t : Scope}

theorem related_evalItems (stepwise : IsStepwise R) {items : List Expr}
    (each : ∀ ref ∈ referencesOfItems items, ref.IsRelated R s t)
    (item : ∀ e ∈ items, (∀ ref ∈ e.references, ref.IsRelated R s t) → R (e.eval s) (e.eval t)) :
    R (evalItems s items) (evalItems t items) := by
  induction items with
  | nil => exact stepwise.refl _
  | cons e rest ih =>
      rw [referencesOfItems, List.forall_mem_append] at each
      obtain ⟨first, later⟩ := List.forall_mem_cons.mp item
      rw [evalItems, evalItems]
      exact stepwise.bind (first each.1) fun value =>
        stepwise.bind (ih each.2 later) fun values => stepwise.refl _

theorem related_evalEntries (stepwise : IsStepwise R) {entries : List (String × Expr)}
    (each : ∀ ref ∈ referencesOfEntries entries, ref.IsRelated R s t)
    (entry : ∀ e ∈ entries, (∀ ref ∈ e.2.references, ref.IsRelated R s t) →
      R (e.2.eval s) (e.2.eval t)) :
    R (evalEntries s entries) (evalEntries t entries) := by
  induction entries with
  | nil => exact stepwise.refl _
  | cons e rest ih =>
      obtain ⟨key, value⟩ := e
      rw [referencesOfEntries, List.forall_mem_append] at each
      obtain ⟨first, later⟩ := List.forall_mem_cons.mp entry
      rw [evalEntries, evalEntries]
      exact stepwise.bind (first each.1) fun value =>
        stepwise.bind (ih each.2 later) fun values => stepwise.refl _

/-- If each reference gives related results in two scopes, so does the whole expression. -/
theorem related_eval (stepwise : IsStepwise R) (e : Expr)
    (each : ∀ ref ∈ e.references, ref.IsRelated R s t) : R (e.eval s) (e.eval t) := by
  induction e with
  | literal value => exact stepwise.refl _
  | identifier name => exact each (.value name) (List.mem_singleton_self _)
  | array items ih =>
      rw [eval, eval]
      exact stepwise.bind (related_evalItems stepwise each ih) fun values => stepwise.refl _
  | object entries ih =>
      rw [eval, eval]
      exact stepwise.bind (related_evalEntries stepwise each ih) fun values => stepwise.refl _
  | member subject property subjectIh propertyIh =>
      rw [references, List.forall_mem_append] at each
      rw [eval, eval]
      exact stepwise.bind (subjectIh each.1) fun subject =>
        stepwise.bind (propertyIh each.2) fun property => stepwise.refl _
  | call function args ih =>
      rw [references, List.forall_mem_cons] at each
      rw [eval, eval]
      exact stepwise.bind (related_evalItems stepwise each.2 ih) each.1
  | unary op operand ih =>
      rw [eval, eval]
      exact stepwise.bind (ih each) fun value => stepwise.refl _
  | binary op left right leftIh rightIh =>
      rw [references, List.forall_mem_append] at each
      rw [eval, eval]
      exact stepwise.bind (leftIh each.1) fun left =>
        stepwise.bind (rightIh each.2) fun right => stepwise.refl _
  | logical op left right leftIh rightIh =>
      rw [references, List.forall_mem_append] at each
      rw [eval, eval]
      refine stepwise.bind (leftIh each.1) fun value => ?_
      -- Both evaluations go on with one left value, so that both or none leave out the right side.
      by_cases decided : op.isDecidedBy value = true
      · simp only [if_pos decided]
        exact stepwise.refl _
      · simp only [if_neg decided]
        exact rightIh each.2
  | conditional test consequent alternate testIh consequentIh alternateIh =>
      rw [references, List.forall_mem_append, List.forall_mem_append] at each
      obtain ⟨⟨inTest, inConsequent⟩, inAlternate⟩ := each
      rw [eval, eval]
      refine stepwise.bind (testIh inTest) fun value => ?_
      by_cases holds : value.truthy = true
      · simp only [if_pos holds]
        exact consequentIh inConsequent
      · simp only [if_neg holds]
        exact alternateIh inAlternate

/-! ## Scopes that agree -/

theorem isStepwise_eq : IsStepwise fun {α} (x y : Except EvalError α) => x = y where
  refl x := rfl
  bind first next := by
    obtain rfl := funext next
    rw [first]

/-- Two scopes have the same for a reference, or both have nothing. -/
def Reference.Agrees (s t : Scope) : Reference → Prop
  | value name => s.resolve? name = t.resolve? name
  | function name => s.ns.function? name = t.ns.function? name

theorem Reference.Agrees.isRelated {ref : Reference} (agrees : ref.Agrees s t) :
    ref.IsRelated (fun x y => x = y) s t := by
  cases ref with
  | value name =>
      have same : s.resolve? name = t.resolve? name := agrees
      show s.valueOf name = t.valueOf name
      rw [Scope.valueOf, Scope.valueOf, same]
  | function name =>
      have same : s.ns.function? name = t.ns.function? name := agrees
      intro args
      rw [Scope.call, Scope.call, same]

theorem eval_eq_of_agrees {e : Expr} (each : ∀ ref ∈ e.references, ref.Agrees s t) :
    e.eval s = e.eval t :=
  related_eval isStepwise_eq e fun ref mem => (each ref mem).isRelated

end Expr

namespace Scope

/-- Arguments beyond the parameters do not matter. -/
theorem argument?_append {name : String} {params : List String} {args : List Value}
    (enough : params.length ≤ args.length) (extra : List Value) :
    argument? name params (args ++ extra) = argument? name params args := by
  induction params generalizing args with
  | nil => rfl
  | cons param params ih =>
      cases args with
      | nil => simp at enough
      | cons arg args =>
          have rest := ih (Nat.le_of_succ_le_succ enough)
          simp [argument?, rest]

/-- A missing argument and a null in its place are the same. -/
theorem argument?_append_null (name : String) (params : List String) (args : List Value) (n : Nat) :
    argument? name params (args ++ List.replicate n .null) = argument? name params args := by
  induction params generalizing args n with
  | nil => rfl
  | cons param params ih =>
      cases args with
      | nil =>
          cases n with
          | zero => rfl
          | succ n =>
              have rest : argument? name params (List.replicate n .null) =
                  argument? name params [] := ih [] n
              simp [argument?, List.replicate_succ, rest]
      | cons arg args => simp [argument?, ih args n]

end Scope

namespace Expr

/-- An expression whose evaluation sees nothing of its scope but what it refers to. -/
structure SeesOnlyReferences (e : Expr) : Prop where
  congr : ∀ s t : Scope, (∀ ref ∈ e.references, ref.Agrees s t) → e.eval s = e.eval t
  extraArgs : ∀ (s : Scope) (extra : List Value), s.params.length ≤ s.args.length →
    e.eval { s with args := s.args ++ extra } = e.eval s
  missingArgs : ∀ (s : Scope) (n : Nat),
    e.eval { s with args := s.args ++ List.replicate n .null } = e.eval s
  locals : ∀ (s : Scope) (locals : List (String × Value)),
    (∀ name, .value name ∈ e.references → locals.lookup name = s.locals.lookup name) →
      e.eval { s with locals } = e.eval s
  ns : ∀ (s : Scope) (ns : Namespace),
    (∀ name, .value name ∈ e.references → ns.get? name = s.ns.get? name) →
    (∀ name, .function name ∈ e.references → ns.function? name = s.ns.function? name) →
      e.eval { s with ns } = e.eval s

/-- Evaluation depends on the names and functions that the expression refers to, and on nothing
else: not on further arguments, nor on whether a last argument is null or missing, nor on locals,
fields and functions that it does not mention. -/
theorem seesOnlyReferences (e : Expr) : e.SeesOnlyReferences where
  congr s t agree := eval_eq_of_agrees agree
  extraArgs s extra enough := by
    refine eval_eq_of_agrees fun ref mem => ?_
    cases ref with
    | value name => simp only [Reference.Agrees, Scope.resolve?, Scope.argument?_append enough]
    | function name => rfl
  missingArgs s n := by
    refine eval_eq_of_agrees fun ref mem => ?_
    cases ref with
    | value name => simp only [Reference.Agrees, Scope.resolve?, Scope.argument?_append_null]
    | function name => rfl
  locals s locals same := by
    refine eval_eq_of_agrees fun ref mem => ?_
    cases ref with
    | value name => simp only [Reference.Agrees, Scope.resolve?, same name mem]
    | function name => rfl
  ns s ns fields functions := by
    refine eval_eq_of_agrees fun ref mem => ?_
    cases ref with
    | value name => simp only [Reference.Agrees, Scope.resolve?, fields name mem]
    | function name => exact functions name mem

/-- The scopes find the same in different places, and each has bindings that the other one lacks. -/
theorem seesOnlyReferences_rearranged :
    let pair : NativeFunction := fun args => .ok (.array (args ++ args))
    let e : Expr := .conditional (.identifier "l") (.call "pair" [.identifier "x", .identifier "r"])
      (.call "unknown" [])
    let s : Scope := { params := ["l", "r"], args := [.bool true], locals := [("x", .string "a")]
                       ns := { fields := [("x", .null)], functions := [("pair", pair)] } }
    let t : Scope := { params := ["r", "x"], args := [.null, .string "a", .bool false]
                       locals := [("l", .bool true), ("unused", .null)]
                       ns := { fields := [("other", .null)]
                               functions := [("other", pair), ("pair", pair)] } }
    (∀ ref ∈ e.references, ref.Agrees s t) ∧ e.eval s = e.eval t ∧
      e.eval s = .ok (.array [.string "a", .null, .string "a", .null]) := by
  intro pair e s t
  have mentioned : e.references =
      [.value "l", .function "pair", .value "x", .value "r", .function "unknown"] := rfl
  have agree : ∀ ref ∈ e.references, ref.Agrees s t := by
    rw [mentioned]
    simp only [List.forall_mem_cons]
    exact ⟨rfl, rfl, rfl, rfl, rfl, nofun⟩
  exact ⟨agree, (seesOnlyReferences e).congr s t agree, rfl⟩

end Expr

end Semblance
