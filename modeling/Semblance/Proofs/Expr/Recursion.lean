import Semblance.Expr.Eval
import Semblance.Proofs.Expr.Nesting
import Semblance.Proofs.Expr.References

/-!
# How far a tree is walked and how deep it is evaluated

The walk that checks a depth visits each node of a tree at most once, and all of them exactly if the
tree is within the depth. An evaluation calls itself once for each level of the tree, so what the
parser has let pass is evaluated with no more nested calls than its limit.
-/

namespace Semblance.Expr

/-! ## Visits of the walk -/

/-- A tree that is visited is exchanged for its children, which are one node less. -/
theorem pendingSize_visit (e : Expr) (level : Nat) (rest : List (Expr × Nat)) :
    pendingSize (e.children.map (·, level + 1) ++ rest) + 1 = pendingSize ((e, level) :: rest) := by
  have children := sizeItems_children e
  have same : (e.children.map (·, level + 1)).map Prod.fst = e.children := by
    rw [List.map_map]
    exact List.map_id _
  rw [pendingSize, pendingSize, List.map_append, same, sizeItems_append, List.map_cons, sizeItems]
  dsimp only
  omega

/-- How many trees the walk visits before it ends. -/
def visits (limit : Nat) : List (Expr × Nat) → Nat
  | [] => 0
  | (e, level) :: rest =>
      if limit < level then 1 else visits limit (e.children.map (·, level + 1) ++ rest) + 1
termination_by pending => pendingSize pending
decreasing_by
  have exchanged := pendingSize_visit e level rest
  omega

theorem visits_le (limit : Nat) (pending : List (Expr × Nat)) :
    visits limit pending ≤ pendingSize pending := by
  fun_induction visits limit pending with
  | case1 => exact Nat.zero_le _
  | case2 e level rest deep =>
      rw [← pendingSize_visit]
      exact Nat.le_add_left 1 _
  | case3 e level rest shallow ih =>
      rw [← pendingSize_visit]
      exact Nat.succ_le_succ ih

/-- A walk that does not end early has visited all nodes. -/
theorem visits_eq {limit : Nat} {pending : List (Expr × Nat)}
    (within : walkWithin limit pending = true) : visits limit pending = pendingSize pending := by
  fun_induction visits limit pending with
  | case1 => rfl
  | case2 e level rest deep =>
      rw [walkWithin, if_pos deep] at within
      cases within
  | case3 e level rest shallow ih =>
      rw [walkWithin, if_neg shallow] at within
      rw [← pendingSize_visit, ih within]

theorem pendingSize_root (e : Expr) : pendingSize [(e, 1)] = e.size :=
  Nat.add_zero e.size

/-! ## Nested calls of an evaluation -/

/-- A result, a failure, or nothing where calls would have to nest too deep. -/
abbrev Nested (α : Type) := ExceptT EvalError Option α

namespace Nested

/-- What does not nest any further. -/
def done {α : Type} (x : Except EvalError α) : Nested α := ExceptT.mk (some x)

/-- There are no calls left. -/
def exhausted {α : Type} : Nested α := ExceptT.mk none

theorem done_bind {α β : Type} (x : Except EvalError α) {f : α → Nested β}
    {g : α → Except EvalError β} (next : ∀ a, f a = done (g a)) :
    (done x >>= f) = done (x >>= g) := by
  cases x with
  | error error => rfl
  | ok a => exact next a

end Nested

mutual

/-- Evaluate with so many nested calls at most. -/
def evalWithin (scope : Scope) : Nat → Expr → Nested Value
  | 0, _ => .exhausted
  | _ + 1, literal value => .done (.ok value)
  | _ + 1, identifier name => .done (scope.valueOf name)
  | calls + 1, array items => do
      let values ← evalItemsWithin scope calls items
      return .array values
  | calls + 1, object entries => do
      let values ← evalEntriesWithin scope calls entries
      return .object (Entries.ofList values)
  | calls + 1, member subject property => do
      let subject ← evalWithin scope calls subject
      let property ← evalWithin scope calls property
      .done (subject.member property)
  | calls + 1, call function args => do
      let values ← evalItemsWithin scope calls args
      .done (scope.call function values)
  | calls + 1, unary op operand => do
      let value ← evalWithin scope calls operand
      return op.apply value
  | calls + 1, binary op left right => do
      let left ← evalWithin scope calls left
      let right ← evalWithin scope calls right
      return op.apply left right
  | calls + 1, logical op left right => do
      let value ← evalWithin scope calls left
      if op.isDecidedBy value then return value else evalWithin scope calls right
  | calls + 1, conditional test consequent alternate => do
      let value ← evalWithin scope calls test
      if value.truthy then evalWithin scope calls consequent else evalWithin scope calls alternate

def evalItemsWithin (scope : Scope) (calls : Nat) : List Expr → Nested (List Value)
  | [] => .done (.ok [])
  | item :: rest => do
      let value ← evalWithin scope calls item
      let values ← evalItemsWithin scope calls rest
      return value :: values

def evalEntriesWithin (scope : Scope) (calls : Nat) :
    List (String × Expr) → Nested (List (String × Value))
  | [] => .done (.ok [])
  | (key, item) :: rest => do
      let value ← evalWithin scope calls item
      let values ← evalEntriesWithin scope calls rest
      return (key, value) :: values

end

variable {scope : Scope} {calls : Nat}

theorem evalItemsWithin_eq {items : List Expr}
    (each : ∀ e ∈ items, evalWithin scope calls e = .done (e.eval scope)) :
    evalItemsWithin scope calls items = .done (evalItems scope items) := by
  induction items with
  | nil => rw [evalItemsWithin, evalItems]
  | cons e rest ih =>
      obtain ⟨first, later⟩ := List.forall_mem_cons.mp each
      rw [evalItemsWithin, evalItems, first, ih later]
      exact Nested.done_bind _ fun value => Nested.done_bind _ fun values => rfl

theorem evalEntriesWithin_eq {entries : List (String × Expr)}
    (each : ∀ entry ∈ entries, evalWithin scope calls entry.2 = .done (entry.2.eval scope)) :
    evalEntriesWithin scope calls entries = .done (evalEntries scope entries) := by
  induction entries with
  | nil => rw [evalEntriesWithin, evalEntries]
  | cons entry rest ih =>
      obtain ⟨key, e⟩ := entry
      obtain ⟨first, later⟩ := List.forall_mem_cons.mp each
      rw [evalEntriesWithin, evalEntries, show evalWithin scope calls e = _ from first, ih later]
      exact Nested.done_bind _ fun value => Nested.done_bind _ fun values => rfl

theorem exists_calls {e : Expr} (enough : e.depth ≤ calls) :
    ∃ fewer, calls = fewer + 1 ∧ ∀ child ∈ e.children, child.depth ≤ fewer := by
  rw [depth_eq] at enough
  exact ⟨calls - 1, by omega, depthItems_le_iff.mp (by omega)⟩

/-- As many nested calls as the tree has levels are enough for an evaluation. -/
theorem evalWithin_eq (e : Expr) (enough : e.depth ≤ calls) :
    evalWithin scope calls e = .done (e.eval scope) := by
  induction e generalizing calls with
  | literal value =>
      obtain ⟨calls, rfl, -⟩ := exists_calls enough
      rw [evalWithin, eval]
  | identifier name =>
      obtain ⟨calls, rfl, -⟩ := exists_calls enough
      rw [evalWithin, eval]
      rfl
  | array items ih =>
      obtain ⟨calls, rfl, each⟩ := exists_calls enough
      rw [evalWithin, eval, evalItemsWithin_eq fun e mem => ih e mem (each e mem)]
      exact Nested.done_bind _ fun values => rfl
  | object entries ih =>
      obtain ⟨calls, rfl, each⟩ := exists_calls enough
      rw [evalWithin, eval, evalEntriesWithin_eq fun entry mem =>
        ih entry mem (each _ (List.mem_map_of_mem mem))]
      exact Nested.done_bind _ fun values => rfl
  | member subject property subjectIh propertyIh =>
      obtain ⟨calls, rfl, each⟩ := exists_calls enough
      simp only [children, List.forall_mem_cons] at each
      rw [evalWithin, eval, subjectIh each.1, propertyIh each.2.1]
      exact Nested.done_bind _ fun subject => Nested.done_bind _ fun property => rfl
  | call function args ih =>
      obtain ⟨calls, rfl, each⟩ := exists_calls enough
      rw [evalWithin, eval, evalItemsWithin_eq fun e mem => ih e mem (each e mem)]
      exact Nested.done_bind _ fun values => rfl
  | unary op operand ih =>
      obtain ⟨calls, rfl, each⟩ := exists_calls enough
      simp only [children, List.forall_mem_cons] at each
      rw [evalWithin, eval, ih each.1]
      exact Nested.done_bind _ fun value => rfl
  | binary op left right leftIh rightIh =>
      obtain ⟨calls, rfl, each⟩ := exists_calls enough
      simp only [children, List.forall_mem_cons] at each
      rw [evalWithin, eval, leftIh each.1, rightIh each.2.1]
      exact Nested.done_bind _ fun left => Nested.done_bind _ fun right => rfl
  | logical op left right leftIh rightIh =>
      obtain ⟨calls, rfl, each⟩ := exists_calls enough
      simp only [children, List.forall_mem_cons] at each
      rw [evalWithin, eval, leftIh each.1, rightIh each.2.1]
      refine Nested.done_bind _ fun value => ?_
      split <;> rfl
  | conditional test consequent alternate testIh consequentIh alternateIh =>
      obtain ⟨calls, rfl, each⟩ := exists_calls enough
      simp only [children, List.forall_mem_cons] at each
      rw [evalWithin, eval, testIh each.1, consequentIh each.2.1, alternateIh each.2.2.1]
      refine Nested.done_bind _ fun value => ?_
      split <;> rfl

/-! ## The limit -/

/-- The walk ends after at most one visit for each node, with the answer whether the depth of the
tree is within the limit, and no node is left out of a positive one. So each tree that is parsed is
within the limit, and its evaluation does not nest more calls than that. -/
theorem isWithinDepth_isExact :
    (∀ (limit : Nat) (e : Expr), (e.isWithinDepth limit = true ↔ e.depth ≤ limit) ∧
      visits limit [(e, 1)] ≤ e.size ∧
      (e.depth ≤ limit → visits limit [(e, 1)] = e.size)) ∧
    ∀ tokens e, parse tokens = .ok e → e.depth ≤ maxExpressionDepth ∧
      ∀ scope, evalWithin scope maxExpressionDepth e = .done (e.eval scope) := by
  refine ⟨fun limit e => ⟨isWithinDepth_iff limit e, ?_, fun shallow => ?_⟩,
    fun tokens e parsed => ?_⟩
  · exact (visits_le limit _).trans_eq (pendingSize_root e)
  · rw [visits_eq ((isWithinDepth_iff limit e).mpr shallow), pendingSize_root]
  · have shallow := (derives_of_parseWithin parsed).2
    exact ⟨shallow, fun scope => evalWithin_eq e shallow⟩

/-- Thirty-two arrays in each other are visited one by one, and evaluated within the limit. -/
theorem isWithinDepth_isExact_tower :
    (tower 31).depth ≤ maxExpressionDepth ∧
      visits maxExpressionDepth [(tower 31, 1)] = (tower 31).size ∧
      parse (towerTokens 31 0) = .ok (tower 31) ∧
      ∀ scope, evalWithin scope maxExpressionDepth (tower 31) = .done ((tower 31).eval scope) := by
  obtain ⟨walk, parses⟩ := isWithinDepth_isExact
  have shallow : (tower 31).depth ≤ maxExpressionDepth := by
    rw [depth_tower]
    decide
  have parsed : parse (towerTokens 31 0) = .ok (tower 31) :=
    parseWithin_of_derives (derives_tower 31 0) (by decide) shallow
  obtain ⟨-, evaluated⟩ := parses _ _ parsed
  exact ⟨shallow, (walk maxExpressionDepth (tower 31)).2.2 shallow, parsed, evaluated⟩

end Semblance.Expr
