import Semblance.Proofs.Binary64.Monotone
import Semblance.Proofs.Execution.Run

/-!
# Totals that overflow

The total of a run only grows, so it can become infinite while the score stays finite. Whether there
is a similarity is decided by the ratio: where both sums are infinite it is no number and there is
none, but a finite score is a ratio of zero beside an infinite total.
-/

namespace Semblance

open Binary64

theorem Confidence.ofScore_of_isZero {ratio : Float} (zero : IsZero ratio) :
    ofScore ratio = low := by
  obtain ⟨sign, zero⟩ := zero
  have below (x : Float) (least : (parts x).le (.zero sign) = false) : ¬ ratio ≥ x := by
    rw [ge_iff_le, le_iff, zero, least]
    exact Bool.false_ne_true
  cases sign <;> rw [ofScore, if_neg (below _ rfl), if_neg (below _ rfl), if_neg (below _ rfl)]

/-! ## What a rule adds to the total -/

namespace CompiledRule

variable {r : CompiledRule} {left right : Value} {ns : Namespace}

/-- What counts is a multiple of something positive, or the strength itself. -/
theorem weigh_possible_nonneg (large : r.strength ≥ 1.0) (score : Score) :
    ∀ p ∈ (r.weigh score).possible r.strength, 0.0 ≤ p := by
  have strength : 0.0 ≤ r.strength := zero_le_of_one_le large
  rw [weigh]
  cases score.thrown? with
  | some error => exact List.forall_mem_singleton.mpr strength
  | none =>
      dsimp only
      split
      · by_cases counts : score.possible > 0.0
        · rw [RuleOutcome.possible, decide_eq_true counts, if_pos rfl]
          exact List.forall_mem_singleton.mpr (zero_le_mul counts large)
        · rw [RuleOutcome.possible, decide_eq_false counts, if_neg Bool.false_ne_true]
          exact List.forall_mem_nil _
      · exact List.forall_mem_singleton.mpr strength

theorem outcome_possible_nonneg (large : r.strength ≥ 1.0) :
    ∀ p ∈ (r.outcome left right ns).possible r.strength, 0.0 ≤ p := by
  have strength : 0.0 ≤ r.strength := zero_le_of_one_le large
  rw [outcome]
  split
  · exact List.forall_mem_singleton.mpr strength
  · split
    · exact List.forall_mem_singleton.mpr strength
    · split
      · exact List.forall_mem_nil _
      · exact weigh_possible_nonneg large _

end CompiledRule

namespace Execution

variable {left right : Value} {ns : Namespace}

theorem record_total_nonneg {x : Execution} (nonneg : 0.0 ≤ x.total) {r : CompiledRule}
    (large : r.strength ≥ 1.0) : 0.0 ≤ (x.record r (r.outcome left right ns)).total := by
  rw [record_total]
  exact foldl_add_nonneg nonneg (CompiledRule.outcome_possible_nonneg large)

theorem resume_total_nonneg {x : Execution} (nonneg : 0.0 ≤ x.total) {rules : List CompiledRule}
    (large : ∀ r ∈ rules, r.strength ≥ 1.0) : 0.0 ≤ (x.resume rules left right ns).total := by
  induction rules generalizing x with
  | nil => exact nonneg
  | cons r rest ih =>
      obtain ⟨first, others⟩ := List.forall_mem_cons.mp large
      exact ih (record_total_nonneg nonneg first) others

/-! ## Similarity -/

variable {x : Execution}

theorem similarity?_eq_some_iff {ratio : Float} :
    x.similarity? = some ratio ↔
      0.0 < x.total ∧ ratio = x.score / x.total ∧ ratio.isFinite = true := by
  rw [similarity?]
  simp only [Bool.and_eq_true, decide_eq_true_eq, Option.ite_none_right_eq_some,
    Option.some.injEq, gt_iff_lt]
  constructor
  · rintro ⟨⟨positive, finite⟩, rfl⟩
    exact ⟨positive, rfl, finite⟩
  · rintro ⟨positive, rfl, finite⟩
    exact ⟨⟨positive, finite⟩, rfl⟩

theorem similarity?_eq_none_of_forall (never : ∀ ratio, x.similarity? ≠ some ratio) :
    x.similarity? = none ∧ x.confidence? = none := by
  have empty : x.similarity? = none := Option.eq_none_iff_forall_ne_some.mpr never
  exact ⟨empty, by rw [confidence?, empty, Option.map_none]⟩

theorem similarity?_eq_none_of_total_le_zero (nothing : x.total ≤ 0.0) :
    x.similarity? = none ∧ x.confidence? = none := by
  apply similarity?_eq_none_of_forall
  intro ratio similar
  exact not_zero_lt_of_le_zero nothing (similarity?_eq_some_iff.mp similar).1

/-- Beside a total that has overflowed, only a finite score has a ratio. -/
theorem similarity?_eq_none_of_overflow (overflows : x.total.isFinite = false)
    (lost : ¬ (0.0 < x.total ∧ x.score.isFinite = true)) :
    x.similarity? = none ∧ x.confidence? = none := by
  apply similarity?_eq_none_of_forall
  intro ratio similar
  obtain ⟨positive, rfl, finite⟩ := similarity?_eq_some_iff.mp similar
  rw [(div_infinite x.score (parts_of_zero_lt positive overflows)).1] at finite
  exact lost ⟨positive, finite⟩

/-- That ratio is zero, whatever the score is. -/
theorem isZero_similarity?_of_overflow (overflows : x.total.isFinite = false)
    (positive : 0.0 < x.total) (kept : x.score.isFinite = true) :
    ∃ ratio, x.similarity? = some ratio ∧ IsZero ratio ∧ x.confidence? = some .low := by
  obtain ⟨same, vanishes⟩ := div_infinite x.score (parts_of_zero_lt positive overflows)
  have similar : x.similarity? = some (x.score / x.total) :=
    similarity?_eq_some_iff.mpr ⟨positive, rfl, same.trans kept⟩
  refine ⟨_, similar, vanishes kept, ?_⟩
  rw [confidence?, similar, Option.map_some, Confidence.ofScore_of_isZero (vanishes kept)]

/-- A run has a similarity when something was possible and the ratio of its sums is finite. Beside
a total that has overflowed, a finite score is a similarity of zero and not to be trusted, and only
a score that has overflowed too leaves none. -/
theorem execute_similarity (rules : List CompiledRule) (left right : Value) (ns : Namespace) :
    let x := execute rules left right ns
    ((∀ r ∈ rules, r.strength ≥ 1.0) → 0.0 ≤ x.total) ∧
      (x.total ≤ 0.0 → x.similarity? = none ∧ x.confidence? = none) ∧
      (∀ ratio, x.similarity? = some ratio ↔
        0.0 < x.total ∧ ratio = x.score / x.total ∧ ratio.isFinite = true) ∧
      (x.total.isFinite = false →
        (¬ (0.0 < x.total ∧ x.score.isFinite = true) →
          x.similarity? = none ∧ x.confidence? = none) ∧
        (0.0 < x.total → x.score.isFinite = true →
          ∃ ratio, x.similarity? = some ratio ∧ IsZero ratio ∧ x.confidence? = some .low)) := by
  have start : 0.0 ≤ ({} : Execution).total := zero_le_zero
  have nonneg (large : ∀ r ∈ rules, r.strength ≥ 1.0) :
      0.0 ≤ (execute rules left right ns).total := resume_total_nonneg start large
  exact ⟨nonneg, similarity?_eq_none_of_total_le_zero, fun _ => similarity?_eq_some_iff,
    fun overflows => ⟨similarity?_eq_none_of_overflow overflows,
      isZero_similarity?_of_overflow overflows⟩⟩

/-- Two rules that together make more possible than a number can hold. With both achieved in full
there is no ratio, with little achieved it is zero, and without rules nothing is possible. -/
theorem execute_similarity_huge :
    let given : Extractor := fun subject _ => .ok subject
    let rule (criteria : String) (achieved : Float) : CompiledRule :=
      { criteria, extract := given, against := given,
        scorer := .custom fun _ _ _ => .ok (.array [.float achieved, .float 1e308]) }
    let rules (achieved : Float) := [rule "a" achieved, rule "b" achieved]
    let run (achieved : Float) := execute (rules achieved) (.ofNat 1) (.ofNat 1) .empty
    (∀ r ∈ rules 1.0, r.strength ≥ 1.0) ∧ 0.0 ≤ (run 1.0).total ∧
      (run 1.0).total.isFinite = false ∧
      (∃ ratio, (run 1.0).similarity? = some ratio ∧ IsZero ratio ∧
        (run 1.0).confidence? = some .low) ∧
      (run 1e308).total.isFinite = false ∧ (run 1e308).similarity? = none ∧
      (run 1e308).confidence? = none ∧
      (execute [] (.ofNat 1) (.ofNat 1) .empty).similarity? = none := by
  intro given rule rules run
  have one : (1.0 : Float) ≥ 1.0 := by decide +kernel
  have large : ∀ r ∈ rules 1.0, r.strength ≥ 1.0 := by
    intro r mem
    simp only [rules, List.mem_cons, List.not_mem_nil, or_false] at mem
    rcases mem with rfl | rfl <;> exact one
  obtain ⟨nonneg, -, -, little⟩ := execute_similarity (rules 1.0) (.ofNat 1) (.ofNat 1) .empty
  obtain ⟨-, -, -, full⟩ := execute_similarity (rules 1e308) (.ofNat 1) (.ofNat 1) .empty
  obtain ⟨-, nothing, -, -⟩ := execute_similarity [] (.ofNat 1) (.ofNat 1) .empty
  have overflows : (run 1.0).total.isFinite = false := by decide +kernel
  have bothOverflow : (run 1e308).total.isFinite = false := by decide +kernel
  have zero := (little overflows).2 (by decide +kernel) (by decide +kernel)
  obtain ⟨missing, unrated⟩ := (full bothOverflow).1 (by decide +kernel)
  exact ⟨large, nonneg large, overflows, zero, bothOverflow, missing, unrated,
    (nothing zero_le_zero).1⟩

/-- A total that has overflowed can leave a similarity: a finite score is a ratio of zero. -/
theorem exists_similarity?_of_overflow :
    ∃ (rules : List CompiledRule) (left right : Value) (ns : Namespace),
      (execute rules left right ns).total.isFinite = false ∧
        (execute rules left right ns).similarity? = some 0.0 ∧
        (execute rules left right ns).confidence? = some .low := by
  let given : Extractor := fun subject _ => .ok subject
  let rule (criteria : String) : CompiledRule :=
    { criteria, extract := given, against := given,
      scorer := .custom fun _ _ _ => .ok (.array [.float 1.0, .float 1e308]) }
  exact ⟨[rule "a", rule "b"], .ofNat 1, .ofNat 1, .empty, by decide +kernel⟩

end Execution

end Semblance
