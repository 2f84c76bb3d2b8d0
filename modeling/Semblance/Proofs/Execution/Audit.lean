import Semblance.Proofs.Binary64.Scaling
import Semblance.Proofs.Execution.Composition
import Semblance.Proofs.Score

/-!
# Details account for the sums

What counts towards the sums is decided before a score is weighed, and a score that grows too large
is replaced afterwards. Nevertheless the details tell it all: both sums, and the errors of the rules
that failed, can be read off them.
-/

namespace Semblance

namespace RuleDetail

/-- What a detail says to add to the score. -/
def achieved : Option RuleDetail → List Float
  | some (scored achieved possible) => if possible > 0.0 then [achieved] else []
  | _ => []

/-- What the detail of a rule of a given strength says to add to the total. -/
def possible (strength : Float) : Option RuleDetail → List Float
  | some (scored _ possible) => if possible > 0.0 then [possible] else []
  | some (failed _) => [strength]
  | none => []

end RuleDetail

/-- A strength that rules are given, and a scorer that turns answers into scores. -/
structure CompiledRule.IsRegular (r : CompiledRule) : Prop where
  finite : r.strength.isFinite = true
  one_le : r.strength ≥ 1.0
  answers : ∃ answer : Value → Value → Namespace → Except EvalError Value, ∀ l v ns,
    r.scorer.score l v ns = .ofResult (answer l v ns)

/-! ## One rule -/

/-- An outcome whose detail says what it adds to the sums. -/
structure RuleOutcome.IsAudited (strength : Float) (o : RuleOutcome) : Prop where
  achieved_eq : o.achieved = RuleDetail.achieved o.detail?
  possible_eq : o.possible strength = RuleDetail.possible strength o.detail?
  scored_finite : ∀ a p, o.detail? = some (.scored a p) →
    a.isFinite = true ∧ p.isFinite = true ∧ p ≥ 0.0

namespace RuleOutcome

theorem isAudited_skipped (strength : Float) : IsAudited strength skipped :=
  ⟨rfl, rfl, nofun⟩

theorem isAudited_failed (strength : Float) (error : EvalError) :
    IsAudited strength (failed error) :=
  ⟨rfl, rfl, nofun⟩

/-- A scored outcome counts when its weighted possible is positive. -/
theorem isAudited_scored {strength a p : Float} {counts : Bool} (errors : List ScoreError)
    (achieved : a.isFinite = true) (possible : p.isFinite = true) (nonneg : p ≥ 0.0)
    (counted : counts = decide (p > 0.0)) : IsAudited strength (scored a p counts errors) where
  achieved_eq := by
    rw [RuleOutcome.achieved, detail?, RuleDetail.achieved, counted]
    simp only [decide_eq_true_eq]
  possible_eq := by
    rw [RuleOutcome.possible, detail?, RuleDetail.possible, counted]
    simp only [decide_eq_true_eq]
  scored_finite b q same := by
    cases same
    exact ⟨achieved, possible, nonneg⟩

/-- The text of a failure is the message of the only error. -/
theorem errors_of_detail?_failed {o : RuleOutcome} {text : String}
    (failure : o.detail? = some (.failed text)) : ∃ e, o.errors = [e] ∧ text = e.message := by
  cases o with
  | skipped => cases failure
  | scored a p counts errors => cases failure
  | failed error =>
      cases failure
      exact ⟨.eval error, rfl, rfl⟩

end RuleOutcome

namespace CompiledRule

/-- Weighing keeps the sign of what is possible, and what grows too large counts in full. -/
theorem isAudited_weigh {r : CompiledRule} (regular : r.IsRegular) {score : Score}
    (nonneg : 0.0 ≤ score.possible) : (r.weigh score).IsAudited r.strength := by
  rw [weigh]
  split
  · exact RuleOutcome.isAudited_failed r.strength _
  · -- Whether the rule counts is decided before weighing, but weighing does not change the answer.
    obtain ⟨weighedNonneg, counted⟩ :=
      Binary64.zero_lt_mul_iff nonneg regular.finite regular.one_le
    dsimp only
    split
    · rename_i bounded
      obtain ⟨achieved, possible⟩ := Bool.and_eq_true_iff.mp bounded
      exact RuleOutcome.isAudited_scored _ achieved possible weighedNonneg
        (decide_eq_decide.mpr counted.symm)
    · -- What overflowed is nothing achieved out of the strength, so it always counts.
      have positive := Binary64.zero_lt_of_one_le regular.finite regular.one_le
      exact RuleOutcome.isAudited_scored _ rfl regular.finite
        ((Binary64.zero_le_iff _).mpr (.inr positive)) (decide_eq_true positive).symm

theorem isAudited_outcome {r : CompiledRule} (regular : r.IsRegular) (left right : Value)
    (ns : Namespace) : (r.outcome left right ns).IsAudited r.strength := by
  obtain ⟨answer, answers⟩ := regular.answers
  rw [outcome]
  split
  · exact RuleOutcome.isAudited_failed r.strength _
  · split
    · exact RuleOutcome.isAudited_failed r.strength _
    · split
      · exact RuleOutcome.isAudited_skipped r.strength
      · rw [answers]
        exact isAudited_weigh regular (Score.ofResult_possible_nonneg _)

theorem weigh_detail?_ne_none (r : CompiledRule) (score : Score) :
    (r.weigh score).detail? ≠ none := by
  rw [weigh]
  split
  · exact nofun
  · dsimp only
    split <;> exact nofun

/-- A rule leaves no detail when it takes values from both subjects, but finds a null. -/
theorem outcome_detail?_eq_none_iff (r : CompiledRule) (left right : Value) (ns : Namespace) :
    (r.outcome left right ns).detail? = none ↔ ∃ l v, r.extract left ns = .ok l ∧
      r.against right ns = .ok v ∧ (l.isNull = true ∨ v.isNull = true) := by
  rw [outcome]
  cases r.extract left ns with
  | error error => simp [RuleOutcome.detail?]
  | ok l =>
      cases r.against right ns with
      | error error => simp [RuleOutcome.detail?]
      | ok v =>
          by_cases null : l.isNull = true ∨ v.isNull = true
          · have skips : (l.isNull || v.isNull) = true := by simpa using null
            simp [skips, RuleOutcome.detail?, null]
          · have compares : (l.isNull || v.isNull) = false := by simpa using null
            simp [compares, weigh_detail?_ne_none, null]

end CompiledRule

/-! ## All rules -/

/-- The details of a run tell what the run came to. -/
structure Execution.IsAuditTrail (rules : List CompiledRule) (left right : Value)
    (ns : Namespace) (x : Execution) : Prop where
  /-- Each detail belongs to a rule. -/
  owned : ∀ criterion detail, x.details.lookup criterion = some detail →
    ∃ r ∈ rules, r.criteria = criterion
  /-- A rule has a detail unless it took a null from a subject. -/
  none_iff : ∀ r ∈ rules, x.details.lookup r.criteria = none ↔
    ∃ l v, r.extract left ns = .ok l ∧ r.against right ns = .ok v ∧
      (l.isNull = true ∨ v.isNull = true)
  scored_finite : ∀ criterion a p, x.details.lookup criterion = some (.scored a p) →
    a.isFinite = true ∧ p.isFinite = true ∧ p ≥ 0.0
  /-- The sums are added up from the details in the order of the rules. -/
  score_eq : x.score =
    Binary64.sum (rules.flatMap fun r => RuleDetail.achieved (x.details.lookup r.criteria))
  total_eq : x.total =
    Binary64.sum (rules.flatMap fun r =>
      RuleDetail.possible r.strength (x.details.lookup r.criteria))
  /-- The text of a failure is the message of the one error that the rule added. -/
  failed_error : ∀ criterion text, x.details.lookup criterion = some (.failed text) →
    ∃ before r after e, rules = before ++ r :: after ∧ r.criteria = criterion ∧
      text = e.message ∧
      (execute (before ++ [r]) left right ns).errors =
        (execute before left right ns).errors ++ [e] ∧
      x.errors = (execute before left right ns).errors ++ e ::
        (execute after left right ns).errors

namespace Execution

/-- After each run, the details account for both sums and for all failures. -/
theorem execute_isAuditTrail (rules : List CompiledRule)
    (distinct : (rules.map (·.criteria)).Nodup) (regular : ∀ r ∈ rules, r.IsRegular)
    (left right : Value) (ns : Namespace) :
    IsAuditTrail rules left right ns (execute rules left right ns) where
  owned criterion detail found := by
    obtain ⟨r, mem, same, -⟩ := (lookup_execute_eq_some_iff distinct).mp found
    exact ⟨r, mem, same⟩
  none_iff r mem := by
    rw [lookup_execute distinct mem]
    exact r.outcome_detail?_eq_none_iff left right ns
  scored_finite criterion a p found := by
    obtain ⟨r, mem, -, detail⟩ := (lookup_execute_eq_some_iff distinct).mp found
    exact (CompiledRule.isAudited_outcome (regular r mem) left right ns).scored_finite a p detail
  score_eq := by
    have same (r : CompiledRule) (mem : r ∈ rules) : (r.outcome left right ns).achieved =
        RuleDetail.achieved ((execute rules left right ns).details.lookup r.criteria) := by
      rw [lookup_execute distinct mem]
      exact (CompiledRule.isAudited_outcome (regular r mem) left right ns).achieved_eq
    rw [execute_score, List.flatMap_def, List.flatMap_def, List.map_congr_left same]
  total_eq := by
    have same (r : CompiledRule) (mem : r ∈ rules) :
        (r.outcome left right ns).possible r.strength = RuleDetail.possible r.strength
          ((execute rules left right ns).details.lookup r.criteria) := by
      rw [lookup_execute distinct mem]
      exact (CompiledRule.isAudited_outcome (regular r mem) left right ns).possible_eq
    rw [execute_total, List.flatMap_def, List.flatMap_def, List.map_congr_left same]
  failed_error criterion text found := by
    obtain ⟨r, mem, same, detail⟩ := (lookup_execute_eq_some_iff distinct).mp found
    obtain ⟨e, only, text⟩ := RuleOutcome.errors_of_detail?_failed detail
    -- The run goes up to the rule, over it alone, and on from it.
    obtain ⟨before, after, rfl⟩ := List.append_of_mem mem
    have added : (execute [r] left right ns).errors = [e] := (errors_single r).trans only
    refine ⟨before, r, after, e, rfl, same, text, ?_, ?_⟩
    · rw [errors_append, added]
    · rw [List.append_cons, errors_append, errors_append, added, List.append_assoc]
      rfl

/-- One rule fails, one has nothing to compare, and one overflows. -/
theorem execute_isAuditTrail_mixed :
    let huge : Value → Value → Namespace → Except EvalError Value :=
      fun _ _ _ => .ok (.float 1e308)
    let rules : List CompiledRule := [
      { criteria := "name", extract := fun _ _ => .error (.unknownIdentifier "s"),
        against := fun subject _ => .ok subject, scorer := .constant },
      { criteria := "age", extract := fun subject _ => .ok subject,
        against := fun subject _ => .ok subject, scorer := .constant },
      { criteria := "city", strength := 2.0, extract := fun _ _ => .ok (.bool true),
        against := fun _ _ => .ok (.bool true), scorer := .custom huge }]
    (rules.map (·.criteria)).Nodup ∧ (∀ r ∈ rules, r.IsRegular) ∧
      IsAuditTrail rules .null .null .empty (execute rules .null .null .empty) := by
  intro huge rules
  have distinct : (rules.map (·.criteria)).Nodup := by
    simp [rules]
  have one : (1.0 : Float).isFinite = true ∧ (1.0 : Float) ≥ 1.0 := by decide +kernel
  have two : (2.0 : Float).isFinite = true ∧ (2.0 : Float) ≥ 1.0 := by decide +kernel
  have regular : ∀ r ∈ rules, r.IsRegular := by
    intro r mem
    simp only [rules, List.mem_cons, List.not_mem_nil, or_false] at mem
    rcases mem with rfl | rfl | rfl
    · exact ⟨one.1, one.2, fun _ _ _ => .ok .zero, fun _ _ _ => rfl⟩
    · exact ⟨one.1, one.2, fun _ _ _ => .ok .zero, fun _ _ _ => rfl⟩
    · exact ⟨two.1, two.2, huge, fun _ _ _ => rfl⟩
  exact ⟨distinct, regular, execute_isAuditTrail rules distinct regular .null .null .empty⟩

end Execution

end Semblance
