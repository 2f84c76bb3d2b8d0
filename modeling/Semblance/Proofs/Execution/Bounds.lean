import Semblance.Proofs.Binary64.Monotone
import Semblance.Proofs.Execution.Run

/-!
# Bounded scores make a bounded similarity

If no rule achieves more than is possible, no run does, and what was achieved is a part between
nothing and all of what was possible. A rule that fails or overflows only adds to what was possible,
and rounding keeps the order of the two sums, also where they grow infinite.
-/

namespace Semblance

/-- A rule of finite strength that achieves no more than is possible when it compares what it takes
from two subjects. -/
structure CompiledRule.IsBounded (r : CompiledRule) (left right : Value) (ns : Namespace) :
    Prop where
  finite : r.strength.isFinite = true
  one_le : r.strength ≥ 1.0
  score_bounded : ∀ l v, r.extract left ns = .ok l → r.against right ns = .ok v →
    l.isNull = false → v.isNull = false →
    0.0 ≤ (r.scorer.score l v ns).achieved ∧
      (r.scorer.score l v ns).achieved ≤ (r.scorer.score l v ns).possible

/-- What counts towards the sums is no more than was possible. -/
def RuleOutcome.IsBounded : RuleOutcome → Prop
  | .skipped | .failed _ => True
  | .scored achieved possible counts _ => counts = true → 0.0 ≤ achieved ∧ achieved ≤ possible

/-- No more was achieved than was possible. -/
structure Execution.IsBounded (x : Execution) : Prop where
  nonneg : 0.0 ≤ x.score
  le : x.score ≤ x.total

/-! ## One rule -/

namespace CompiledRule

variable {r : CompiledRule} {left right : Value} {ns : Namespace}

theorem IsBounded.strength_nonneg (bounded : r.IsBounded left right ns) : 0.0 ≤ r.strength :=
  Binary64.zero_le_of_one_le bounded.one_le

/-- Weighing keeps a score in its bounds, and one that overflows is replaced by nothing out of the
strength. -/
theorem IsBounded.weigh (bounded : r.IsBounded left right ns) {score : Score}
    (nonneg : 0.0 ≤ score.achieved) (le : score.achieved ≤ score.possible) :
    (r.weigh score).IsBounded := by
  rw [CompiledRule.weigh]
  split
  · trivial
  · dsimp only
    split
    · intro counts
      exact Binary64.mul_mono nonneg le bounded.finite bounded.one_le
    · intro counts
      exact ⟨(Binary64.le_iff _ _).mpr rfl, bounded.strength_nonneg⟩

theorem IsBounded.outcome (bounded : r.IsBounded left right ns) :
    (r.outcome left right ns).IsBounded := by
  rw [CompiledRule.outcome]
  split
  · trivial
  · rename_i l taken
    split
    · trivial
    · rename_i v other
      split
      · trivial
      · rename_i given
        rw [Bool.or_eq_true, not_or, Bool.not_eq_true, Bool.not_eq_true] at given
        obtain ⟨nonneg, le⟩ := bounded.score_bounded l v taken other given.1 given.2
        exact bounded.weigh nonneg le

end CompiledRule

/-! ## Runs -/

namespace Execution

variable {left right : Value} {ns : Namespace}

theorem IsBounded.record {x : Execution} (bounded : x.IsBounded) {r : CompiledRule}
    (strength : 0.0 ≤ r.strength) {o : RuleOutcome} (outcome : o.IsBounded) :
    (x.record r o).IsBounded := by
  cases o with
  | skipped => exact bounded
  | failed error => exact ⟨bounded.nonneg, Binary64.le_add bounded.nonneg bounded.le strength⟩
  | scored achieved possible counts errors =>
      cases counts with
      | false => exact ⟨bounded.nonneg, bounded.le⟩
      | true =>
          obtain ⟨nonneg, le⟩ := outcome rfl
          obtain ⟨sumNonneg, sumLe⟩ := Binary64.add_mono bounded.nonneg bounded.le nonneg le
          exact ⟨sumNonneg, sumLe⟩

theorem IsBounded.resume {x : Execution} (bounded : x.IsBounded) {rules : List CompiledRule}
    (each : ∀ r ∈ rules, r.IsBounded left right ns) :
    (x.resume rules left right ns).IsBounded := by
  induction rules generalizing x with
  | nil => exact bounded
  | cons r rest ih =>
      obtain ⟨first, others⟩ := List.forall_mem_cons.mp each
      exact ih (bounded.record first.strength_nonneg first.outcome) others

theorem IsBounded.similarity? {x : Execution} (bounded : x.IsBounded) {ratio : Float}
    (similar : x.similarity? = some ratio) : 0.0 ≤ ratio ∧ ratio ≤ 1.0 := by
  rw [Execution.similarity?] at similar
  split at similar
  · rename_i comparable
    rw [Bool.and_eq_true, decide_eq_true_eq] at comparable
    cases similar
    exact Binary64.div_le_one bounded.nonneg bounded.le comparable.1 comparable.2
  · cases similar

/-- Whatever rules fail, are skipped, abstain or overflow, a run of bounded rules achieves no more
than is possible, and its similarity, where there is one, lies between zero and one. -/
theorem execute_isBounded (rules : List CompiledRule) (left right : Value) (ns : Namespace)
    (each : ∀ r ∈ rules, r.IsBounded left right ns) :
    (execute rules left right ns).IsBounded ∧
      ∀ ratio, (execute rules left right ns).similarity? = some ratio →
        0.0 ≤ ratio ∧ ratio ≤ 1.0 := by
  have start : IsBounded {} := ⟨(Binary64.le_iff _ _).mpr rfl, (Binary64.le_iff _ _).mpr rfl⟩
  have bounded : (execute rules left right ns).IsBounded := start.resume each
  exact ⟨bounded, fun ratio similar => bounded.similarity? similar⟩

/-- One rule fails, one has nothing to compare, one finds nothing possible, one overflows, and one
achieves half of what is possible. -/
theorem execute_isBounded_mixed :
    let given : Extractor := fun _ _ => .ok (.bool true)
    let answers (achieved possible : Float) : Scorer :=
      .custom fun _ _ _ => .ok (.array [.float achieved, .float possible])
    let rules : List CompiledRule := [
      { criteria := "name", extract := fun _ _ => .error (.unknownIdentifier "s"),
        against := given, scorer := .constant },
      { criteria := "age", extract := fun subject _ => .ok subject, against := given,
        scorer := .constant },
      { criteria := "city", extract := given, against := given, scorer := answers 0.0 0.0 },
      { criteria := "size", strength := 2.0, extract := given, against := given,
        scorer := answers 1e308 1e308 },
      { criteria := "kind", strength := 3.0, extract := given, against := given,
        scorer := answers 1.0 2.0 }]
    (∀ r ∈ rules, r.IsBounded .null .null .empty) ∧
      ∃ ratio, (execute rules .null .null .empty).similarity? = some ratio ∧
        0.0 ≤ ratio ∧ ratio ≤ 1.0 := by
  intro given answers rules
  let score (achieved possible : Float) : Score :=
    .ofValue (.array [.float achieved, .float possible])
  have nothing : 0.0 ≤ (score 0.0 0.0).achieved ∧
      (score 0.0 0.0).achieved ≤ (score 0.0 0.0).possible := by decide +kernel
  have huge : 0.0 ≤ (score 1e308 1e308).achieved ∧
      (score 1e308 1e308).achieved ≤ (score 1e308 1e308).possible := by decide +kernel
  have half : 0.0 ≤ (score 1.0 2.0).achieved ∧
      (score 1.0 2.0).achieved ≤ (score 1.0 2.0).possible := by decide +kernel
  have each : ∀ r ∈ rules, r.IsBounded .null .null .empty := by
    intro r mem
    simp only [rules, List.mem_cons, List.not_mem_nil, or_false] at mem
    rcases mem with rfl | rfl | rfl | rfl | rfl
    · exact ⟨by decide +kernel, by decide +kernel, nofun⟩
    · refine ⟨by decide +kernel, by decide +kernel, ?_⟩
      -- The left subject itself is null.
      rintro l v taken - notNull -
      cases taken
      cases notNull
    · exact ⟨by decide +kernel, by decide +kernel, fun _ _ _ _ _ _ => nothing⟩
    · exact ⟨by decide +kernel, by decide +kernel, fun _ _ _ _ _ _ => huge⟩
    · exact ⟨by decide +kernel, by decide +kernel, fun _ _ _ _ _ _ => half⟩
  have compares : (execute rules .null .null .empty).similarity?.isSome = true := by
    decide +kernel
  obtain ⟨ratio, similar⟩ := Option.isSome_iff_exists.mp compares
  exact ⟨each, ratio, similar, (execute_isBounded rules .null .null .empty each).2 ratio similar⟩

end Execution

end Semblance
