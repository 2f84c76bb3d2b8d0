import Semblance.Proofs.Execution.Audit

/-!
# Rules that have nothing to compare

A rule that finds a null in one of the subjects is skipped and leaves no detail. While no two rules
share a criterion, the others leave one detail each, so that the details and the skipped rules
together are as many as the rules.
-/

namespace Semblance

/-- Whether a rule takes values from both subjects, but one of them is null. -/
def CompiledRule.skips (r : CompiledRule) (left right : Value) (ns : Namespace) : Bool :=
  match r.extract left ns, r.against right ns with
  | .ok l, .ok v => l.isNull || v.isNull
  | _, _ => false

theorem CompiledRule.skips_iff {r : CompiledRule} {left right : Value} {ns : Namespace} :
    r.skips left right ns = true ↔ ∃ l v, r.extract left ns = .ok l ∧ r.against right ns = .ok v ∧
      (l.isNull = true ∨ v.isNull = true) := by
  rw [skips]
  cases r.extract left ns with
  | error error => simp
  | ok l =>
      cases r.against right ns with
      | error error => simp
      | ok v => simp

/-- A rule leaves a detail unless it is skipped. -/
theorem CompiledRule.isSome_detail?_outcome (r : CompiledRule) (left right : Value)
    (ns : Namespace) : (r.outcome left right ns).detail?.isSome = !r.skips left right ns := by
  have same : (r.outcome left right ns).detail? = none ↔ r.skips left right ns = true := by
    rw [outcome_detail?_eq_none_iff, skips_iff]
  cases found : (r.outcome left right ns).detail? with
  | none => rw [same.mp found]; rfl
  | some detail =>
      have counts : r.skips left right ns = false := by
        rw [← Bool.not_eq_true, ← same, found]
        exact nofun
      rw [counts]
      rfl

namespace Execution

/-- The detail of a new criterion is one more. -/
theorem length_details_record {x : Execution} {r : CompiledRule}
    (fresh : x.details.lookup r.criteria = none) (o : RuleOutcome) :
    (x.record r o).details.length = x.details.length + o.detail?.toList.length := by
  cases o with
  | skipped => rfl
  | failed error => exact Entries.length_insert_of_lookup_eq_none fresh _
  | scored a p counts errors => exact Entries.length_insert_of_lookup_eq_none fresh _

variable {left right : Value} {ns : Namespace}

/-- Rules with different and new criteria add one detail for each that is not skipped. -/
theorem length_details_resume {rules : List CompiledRule} {x : Execution}
    (distinct : (rules.map (·.criteria)).Nodup)
    (fresh : ∀ r ∈ rules, x.details.lookup r.criteria = none) :
    (x.resume rules left right ns).details.length =
      x.details.length + rules.countP (!·.skips left right ns) := by
  induction rules generalizing x with
  | nil => rfl
  | cons r rest ih =>
      obtain ⟨notAgain, distinct⟩ := List.nodup_cons.mp distinct
      obtain ⟨freshHead, freshRest⟩ := List.forall_mem_cons.mp fresh
      -- Recording the first rule leaves the criteria of the others free.
      have freshAfter : ∀ q ∈ rest,
          (x.record r (r.outcome left right ns)).details.lookup q.criteria = none := by
        intro q mem
        have other : r.criteria ≠ q.criteria := by
          intro same
          exact notAgain (List.mem_map.mpr ⟨q, mem, same.symm⟩)
        rw [lookup_record_of_ne x other, freshRest q mem]
      rw [resume_cons, ih distinct freshAfter, length_details_record freshHead, List.countP_cons,
        ← r.isSome_detail?_outcome left right ns]
      cases (r.outcome left right ns).detail? with
      | none => simp
      | some detail => simp; omega

/-- The rules that are skipped make up for the details that are missing. -/
theorem length_details_add_countP_skips {rules : List CompiledRule}
    (distinct : (rules.map (·.criteria)).Nodup) :
    (execute rules left right ns).details.length + rules.countP (·.skips left right ns) =
      rules.length := by
  have added : (execute rules left right ns).details.length =
      0 + rules.countP (!·.skips left right ns) :=
    length_details_resume (x := {}) distinct fun _ _ => rfl
  rw [added, rules.length_eq_countP_add_countP (·.skips left right ns)]
  simp
  omega

end Execution

end Semblance
