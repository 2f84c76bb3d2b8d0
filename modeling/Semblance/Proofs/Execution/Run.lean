import Semblance.Execution
import Semblance.Proofs.Binary64.Sum
import Semblance.Proofs.Entries

/-!
# What a run is made of

What a rule comes to shows in four places: in the score, in the total, in the errors and in the
detail of its criterion. Each place is read off the outcomes of the rules, one after the other.
-/

namespace Semblance

namespace RuleOutcome

/-- What is left in the details. A rule that is skipped leaves nothing. -/
def detail? : RuleOutcome → Option RuleDetail
  | skipped => none
  | failed error => some (.failed error.message)
  | scored achieved possible _ _ => some (.scored achieved possible)

def errors : RuleOutcome → List ScoreError
  | skipped => []
  | failed error => [.eval error]
  | scored _ _ _ errors => errors

/-- What is added to the score, if anything is. -/
def achieved : RuleOutcome → List Float
  | skipped | failed _ => []
  | scored achieved _ counts _ => if counts then [achieved] else []

/-- What a rule of a given strength adds to the total, if anything. -/
def possible (strength : Float) : RuleOutcome → List Float
  | skipped => []
  | failed _ => [strength]
  | scored _ possible counts _ => if counts then [possible] else []

theorem length_achieved (o : RuleOutcome) : o.achieved.length ≤ 1 := by
  cases o with
  | skipped => exact Nat.zero_le 1
  | failed error => exact Nat.zero_le 1
  | scored a p counts errors => cases counts <;> simp [achieved]

theorem length_possible (strength : Float) (o : RuleOutcome) :
    (o.possible strength).length ≤ 1 := by
  cases o with
  | skipped => exact Nat.zero_le 1
  | failed error => exact Nat.le_refl 1
  | scored a p counts errors => cases counts <;> simp [possible]

end RuleOutcome

namespace Execution

/-! ## One rule -/

theorem record_errors (x : Execution) (r : CompiledRule) (o : RuleOutcome) :
    (x.record r o).errors = x.errors ++ o.errors := by
  cases o with
  | skipped => exact (List.append_nil _).symm
  | failed error => rfl
  | scored a p counts errors => rfl

theorem record_score (x : Execution) (r : CompiledRule) (o : RuleOutcome) :
    (x.record r o).score = o.achieved.foldl (· + ·) x.score := by
  cases o with
  | skipped => rfl
  | failed error => rfl
  | scored a p counts errors => cases counts <;> rfl

theorem record_total (x : Execution) (r : CompiledRule) (o : RuleOutcome) :
    (x.record r o).total = (o.possible r.strength).foldl (· + ·) x.total := by
  cases o with
  | skipped => rfl
  | failed error => rfl
  | scored a p counts errors => cases counts <;> rfl

theorem sorted_record {x : Execution} (sorted : Entries.Sorted x.details) (r : CompiledRule)
    (o : RuleOutcome) : Entries.Sorted (x.record r o).details := by
  cases o with
  | skipped => exact sorted
  | failed error => exact Entries.sorted_insert _ _ sorted
  | scored a p counts errors => exact Entries.sorted_insert _ _ sorted

theorem lookup_record_of_ne (x : Execution) {r : CompiledRule} {criterion : String}
    (other : r.criteria ≠ criterion) (o : RuleOutcome) :
    (x.record r o).details.lookup criterion = x.details.lookup criterion := by
  cases o with
  | skipped => rfl
  | failed error => exact Entries.lookup_insert_of_ne other.symm _ _
  | scored a p counts errors => exact Entries.lookup_insert_of_ne other.symm _ _

theorem lookup_record_self {x : Execution} {r : CompiledRule}
    (fresh : x.details.lookup r.criteria = none) (o : RuleOutcome) :
    (x.record r o).details.lookup r.criteria = o.detail? := by
  cases o with
  | skipped => exact fresh
  | failed error => exact Entries.lookup_insert_self _ _ _
  | scored a p counts errors => exact Entries.lookup_insert_self _ _ _

/-! ## A run that goes on -/

/-- Run further rules on the same subjects. -/
def resume (x : Execution) (rules : List CompiledRule) (left right : Value) (ns : Namespace) :
    Execution :=
  rules.foldl (fun x r => x.record r (r.outcome left right ns)) x

variable {rules : List CompiledRule} {left right : Value} {ns : Namespace}

theorem resume_cons (x : Execution) (r : CompiledRule) (rules : List CompiledRule) :
    x.resume (r :: rules) left right ns =
      (x.record r (r.outcome left right ns)).resume rules left right ns :=
  rfl

theorem execute_append (before after : List CompiledRule) :
    execute (before ++ after) left right ns =
      (execute before left right ns).resume after left right ns :=
  List.foldl_append

theorem resume_errors (x : Execution) (rules : List CompiledRule) :
    (x.resume rules left right ns).errors =
      x.errors ++ rules.flatMap fun r => (r.outcome left right ns).errors := by
  induction rules generalizing x with
  | nil => exact (List.append_nil _).symm
  | cons r rest ih =>
      rw [resume_cons, ih, record_errors, List.append_assoc, List.flatMap_cons]

theorem resume_score (x : Execution) (rules : List CompiledRule) :
    (x.resume rules left right ns).score =
      (rules.flatMap fun r => (r.outcome left right ns).achieved).foldl (· + ·) x.score := by
  induction rules generalizing x with
  | nil => rfl
  | cons r rest ih =>
      rw [resume_cons, ih, record_score, List.flatMap_cons, List.foldl_append]

theorem resume_total (x : Execution) (rules : List CompiledRule) :
    (x.resume rules left right ns).total =
      (rules.flatMap fun r => (r.outcome left right ns).possible r.strength).foldl (· + ·)
        x.total := by
  induction rules generalizing x with
  | nil => rfl
  | cons r rest ih =>
      rw [resume_cons, ih, record_total, List.flatMap_cons, List.foldl_append]

theorem sorted_resume {x : Execution} (sorted : Entries.Sorted x.details)
    (rules : List CompiledRule) : Entries.Sorted (x.resume rules left right ns).details := by
  induction rules generalizing x with
  | nil => exact sorted
  | cons r rest ih => exact ih (sorted_record sorted r _)

/-- Rules for other criteria do not touch a detail. -/
theorem lookup_resume_of_forall_ne (x : Execution) {criterion : String}
    (others : ∀ r ∈ rules, r.criteria ≠ criterion) :
    (x.resume rules left right ns).details.lookup criterion = x.details.lookup criterion := by
  induction rules generalizing x with
  | nil => rfl
  | cons r rest ih =>
      rw [resume_cons, ih _ fun q mem => others q (List.mem_cons_of_mem _ mem)]
      exact lookup_record_of_ne x (others r List.mem_cons_self) _

/-! ## Whole runs -/

theorem execute_errors (rules : List CompiledRule) :
    (execute rules left right ns).errors =
      rules.flatMap fun r => (r.outcome left right ns).errors :=
  resume_errors {} rules

theorem execute_score (rules : List CompiledRule) :
    (execute rules left right ns).score =
      Binary64.sum (rules.flatMap fun r => (r.outcome left right ns).achieved) :=
  resume_score {} rules

theorem execute_total (rules : List CompiledRule) :
    (execute rules left right ns).total =
      Binary64.sum (rules.flatMap fun r => (r.outcome left right ns).possible r.strength) :=
  resume_total {} rules

theorem sorted_execute (rules : List CompiledRule) (left right : Value) (ns : Namespace) :
    Entries.Sorted (execute rules left right ns).details :=
  sorted_resume Entries.sorted_nil rules

/-- Criteria for which there is no rule have no details. -/
theorem lookup_execute_of_forall_ne {criterion : String}
    (others : ∀ r ∈ rules, r.criteria ≠ criterion) :
    (execute rules left right ns).details.lookup criterion = none :=
  lookup_resume_of_forall_ne {} others

/-- The detail of a rule is what the rule came to. -/
theorem lookup_execute (distinct : (rules.map (·.criteria)).Nodup) {r : CompiledRule}
    (mem : r ∈ rules) :
    (execute rules left right ns).details.lookup r.criteria =
      (r.outcome left right ns).detail? := by
  obtain ⟨before, after, rfl⟩ := List.append_of_mem mem
  rw [List.map_append, List.map_cons, List.nodup_append] at distinct
  obtain ⟨-, tail, apart⟩ := distinct
  -- The rules before it leave its criterion free, and those after it do not touch it.
  have fresh : (execute before left right ns).details.lookup r.criteria = none := by
    apply lookup_execute_of_forall_ne
    intro q mem same
    exact apart _ (List.mem_map_of_mem mem) _ List.mem_cons_self same
  have later : ∀ q ∈ after, q.criteria ≠ r.criteria := by
    intro q mem same
    exact (List.nodup_cons.mp tail).1 (same ▸ List.mem_map_of_mem mem)
  rw [execute_append, resume_cons, lookup_resume_of_forall_ne _ later]
  exact lookup_record_self fresh _

theorem lookup_execute_eq_some_iff (distinct : (rules.map (·.criteria)).Nodup)
    {criterion : String} {detail : RuleDetail} :
    (execute rules left right ns).details.lookup criterion = some detail ↔
      ∃ r ∈ rules, r.criteria = criterion ∧ (r.outcome left right ns).detail? = some detail := by
  constructor
  · intro found
    by_cases ruled : ∃ r ∈ rules, r.criteria = criterion
    · obtain ⟨r, mem, rfl⟩ := ruled
      exact ⟨r, mem, rfl, (lookup_execute distinct mem).symm.trans found⟩
    · have others : ∀ r ∈ rules, r.criteria ≠ criterion := by
        intro r mem same
        exact ruled ⟨r, mem, same⟩
      rw [lookup_execute_of_forall_ne others] at found
      cases found
  · rintro ⟨r, mem, rfl, detail⟩
    exact (lookup_execute distinct mem).trans detail

end Execution

end Semblance
