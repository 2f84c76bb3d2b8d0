import Semblance.Proofs.Expr.References

/-!
# Larger namespaces

A caller may lend more fields and functions to an expression. What has a value keeps it, provided
that the new names are free: names that an evaluation has found are found as before, and names that
it could not find were not needed. An expression that fails may come to have a value.
-/

namespace Semblance

/-- The larger namespace has all fields and functions of the other one. Its further functions have
names under which there was no function before, not even a built-in one. -/
structure Namespace.IsExtendedBy (ns larger : Namespace) : Prop where
  field : ∀ {name : String} {value : Value}, ns.get? name = some value →
    larger.get? name = some value
  function : ∀ {name : String} {native : NativeFunction}, ns.function? name = some native →
    larger.function? name = some native
  fresh : ∀ {name : String} {native : NativeFunction}, ns.function? name = none →
    larger.function? name = some native → Builtin.find? name = none

namespace Namespace

theorem IsExtendedBy.trans {ns larger largest : Namespace} (first : ns.IsExtendedBy larger)
    (second : larger.IsExtendedBy largest) : ns.IsExtendedBy largest where
  field found := second.field (first.field found)
  function found := second.function (first.function found)
  fresh {name native} free added := by
    cases between : larger.function? name with
    | none => exact second.fresh between added
    | some earlier => exact first.fresh free between

theorem isExtendedBy_insert {ns : Namespace} {name : String} (free : ns.get? name = none)
    (value : Value) : ns.IsExtendedBy (ns.insert name value) where
  field {other v} found := by
    have different : other ≠ name := by
      rintro rfl
      simp [free] at found
    exact (Entries.lookup_insert_of_ne different value ns.fields).trans found
  function found := found
  fresh {other f} unknown added := by
    have kept : ns.function? other = some f := added
    simp [unknown] at kept

theorem isExtendedBy_register {ns : Namespace} {name : String} (free : ns.function? name = none)
    (notBuiltin : Builtin.find? name = none) (native : NativeFunction) :
    ns.IsExtendedBy (ns.register name native) where
  field found := found
  function {other f} found := by
    have different : other ≠ name := by
      rintro rfl
      simp [free] at found
    exact (Entries.lookup_insert_of_ne different native ns.functions).trans found
  fresh {other f} unknown added := by
    by_cases same : other = name
    · exact same ▸ notBuiltin
    · have kept : (ns.register name native).function? other = ns.function? other :=
        Entries.lookup_insert_of_ne same native ns.functions
      simp [kept, unknown] at added

end Namespace

namespace Expr

/-- A second result that is the same as the first one, if that is a success. -/
def Keeps {α : Type} (x y : Except EvalError α) : Prop := ∀ v, x = .ok v → y = .ok v

theorem isStepwise_keeps : IsStepwise fun {α} (x y : Except EvalError α) => Keeps x y where
  refl x v succeeds := succeeds
  bind {α β x y f g} first next v succeeds := by
    cases x with
    | error error => cases succeeds
    | ok a =>
        have same : y = .ok a := first a rfl
        rw [same]
        exact next a v succeeds

variable {s : Scope} {larger : Namespace}

theorem resolve?_of_isExtendedBy (extended : s.ns.IsExtendedBy larger) {name : String} {v : Value}
    (found : s.resolve? name = some v) : { s with ns := larger }.resolve? name = some v := by
  unfold Scope.resolve? at found ⊢
  -- The namespace comes last: what arguments and locals bind does not depend on it.
  rcases Option.or_eq_some_iff.mp found with argument | ⟨noArgument, found⟩
  · simp [argument]
  · rcases Option.or_eq_some_iff.mp found with bound | ⟨unbound, field⟩
    · simp [noArgument, bound]
    · simp [noArgument, unbound, extended.field field]

theorem keeps_valueOf (extended : s.ns.IsExtendedBy larger) (name : String) :
    Keeps (s.valueOf name) ({ s with ns := larger }.valueOf name) := by
  intro v succeeds
  unfold Scope.valueOf at succeeds ⊢
  cases found : s.resolve? name with
  | none => simp [found] at succeeds
  | some value =>
      rw [resolve?_of_isExtendedBy extended found]
      simpa [found] using succeeds

/-- A function of the namespace is still there, and a built-in one is not hidden. -/
theorem keeps_call (extended : s.ns.IsExtendedBy larger) (name : String) (args : List Value) :
    Keeps (s.call name args) ({ s with ns := larger }.call name args) := by
  intro v succeeds
  unfold Scope.call at succeeds ⊢
  cases own : s.ns.function? name with
  | some native => simpa [own, extended.function own] using succeeds
  | none =>
      cases added : larger.function? name with
      | none => simpa [own, added] using succeeds
      | some native =>
          -- The call of a name that is neither in the namespace nor built-in did not succeed.
          have unknown : Builtin.find? name = none := extended.fresh own added
          simp [own, unknown] at succeeds

/-- What an expression comes to is kept when the namespace grows. -/
theorem eval_of_isExtendedBy (extended : s.ns.IsExtendedBy larger) {e : Expr} {v : Value}
    (succeeds : e.eval s = .ok v) : e.eval { s with ns := larger } = .ok v := by
  have each : ∀ ref ∈ e.references,
      ref.IsRelated (fun {α} (x y : Except EvalError α) => Keeps x y) s
        { s with ns := larger } := by
    intro ref _
    cases ref with
    | value name => exact keeps_valueOf extended name
    | function name => exact keeps_call extended name
  exact related_eval isStepwise_keeps e each v succeeds

/-- The names that were not needed are bound now, and the built-in function that is called is still
the same. -/
theorem eval_of_isExtendedBy_unneeded :
    let pair : NativeFunction := fun args => .ok (.array (args ++ args))
    let s : Scope := { params := ["l"], args := [.object [("a", .null)]]
                       ns := { fields := [("key", .string "a")], functions := [("pair", pair)] } }
    let larger : Namespace := (s.ns.insert "missing" .null).register "triple" pair
    let e : Expr := .conditional
      (.logical .or (.call "has" [.identifier "l", .identifier "key"]) (.identifier "missing"))
      (.call "pair" [.member (.identifier "l") (.identifier "key")]) (.call "triple" [])
    s.ns.IsExtendedBy larger ∧ e.eval s = .ok (.array [.null, .null]) ∧
      e.eval { s with ns := larger } = .ok (.array [.null, .null]) := by
  intro pair s larger e
  have field : s.ns.IsExtendedBy (s.ns.insert "missing" .null) :=
    Namespace.isExtendedBy_insert rfl .null
  have extended : s.ns.IsExtendedBy larger :=
    field.trans (Namespace.isExtendedBy_register rfl rfl pair)
  have succeeds : e.eval s = .ok (.array [.null, .null]) := rfl
  exact ⟨extended, succeeds, eval_of_isExtendedBy extended succeeds⟩

end Expr

end Semblance
