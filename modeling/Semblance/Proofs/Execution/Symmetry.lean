import Semblance.Proofs.Closeness
import Semblance.Proofs.Execution.Run
import Semblance.Proofs.Traversal
import Semblance.Proofs.Value.Equality

/-!
# Swapped subjects

A rule may treat both subjects in one way and compare what it takes from them without regard to the
order. Then it does not matter which subject is the left one, except for the texts of failures: of
two things that fail only the first one is reported, and which one is first depends on the order.
Whether anything fails does not.

Two runs are compared rule by rule.
-/

namespace Semblance

/-- The same on both sides, or a failure on both. -/
inductive Mirrored {ε α : Type} (failure : ε → α) : α → α → Prop where
  | same (a : α) : Mirrored failure a a
  | failures (e f : ε) : Mirrored failure (failure e) (failure f)

/-! ## Scorers -/

namespace Scorer

/-- A scorer for which the order of the values matters only to the choice between errors. -/
def IsSymmetric (s : Scorer) : Prop :=
  ∀ (l r : Value) (ns : Namespace), ∃ x y : Except EvalError Value,
    s.score l r ns = .ofResult x ∧ s.score r l ns = .ofResult y ∧ Mirrored Except.error x y

theorem isSymmetric_constant : constant.IsSymmetric := by
  intro l r ns
  exact ⟨.ok .zero, .ok .zero, rfl, rfl, .same _⟩

/-- If both operands are no numbers, the error is about the one that comes first. -/
theorem mirrored_compareNumbers (spec : RangeSpec) (l r : Value) :
    Mirrored Except.error (compareNumbers spec l r) (compareNumbers spec r l) := by
  unfold compareNumbers
  cases operand l with
  | error e =>
      cases operand r with
      | error f => exact .failures e f
      | ok y => exact .failures e e
  | ok x =>
      cases operand r with
      | error f => exact .failures f f
      | ok y =>
          have same : spec.score x y = spec.score y x := spec.score_comm x y
          simp only [bind, Except.bind, same]
          exact .same _

theorem isSymmetric_range (spec : RangeSpec) : (range spec).IsSymmetric := by
  intro l r ns
  exact ⟨_, _, rfl, rfl, mirrored_compareNumbers spec l r⟩

/-- The expression that asks whether the two values are equal. -/
def equality : Expression where
  source := "l == r"
  params := params
  tree := .binary .equal (.identifier "l") (.identifier "r")

theorem compile_equality : Expression.compile "l == r" params = .ok equality := by
  cbv

theorem parse?_equality : RangeSpec.parse? "l == r" = none := by
  cbv

theorem eval_equality (l r : Value) (ns : Namespace) :
    equality.eval [l, r] ns = .ok (.bool (l.strictEq r)) :=
  rfl

theorem isSymmetric_equality : (expression equality).IsSymmetric := by
  intro l r ns
  refine ⟨equality.eval [l, r] ns, equality.eval [r, l] ns, rfl, rfl, ?_⟩
  rw [eval_equality, eval_equality, Value.strictEq_comm l r]
  exact .same _

end Scorer

/-! ## Rules -/

/-- A rule that does not treat the subjects differently: it has no extractor of its own for the
right one, and its scorer is left out, a range spec or the comparison for equality. -/
structure Rule.IsEvenHanded (rule : Rule) : Prop where
  against : rule.against = none
  scorer : ∀ source, rule.scorer = some source →
    (RangeSpec.parse? source).isSome ∨ source = "l == r"

theorem Scorer.exists_isSymmetric {source : Option String}
    (even : ∀ text, source = some text → (RangeSpec.parse? text).isSome ∨ text = "l == r") :
    ∃ s, compile source = .ok s ∧ s.IsSymmetric := by
  cases source with
  | none => exact ⟨constant, rfl, isSymmetric_constant⟩
  | some text =>
      unfold compile
      cases isRange : RangeSpec.parse? text with
      | some spec => exact ⟨range spec, by simp [isRange], isSymmetric_range spec⟩
      | none =>
          have same : text = "l == r" := by simpa [isRange] using even text rfl
          subst same
          refine ⟨expression equality, ?_, isSymmetric_equality⟩
          simp only [parse?_equality, compile_equality]
          rfl

namespace CompiledRule

/-- A rule compiled from one that is even-handed, with whatever strength it was given since. -/
inductive IsEvenHanded : CompiledRule → Prop where
  | compiled {rule : Rule} {r : CompiledRule} (even : rule.IsEvenHanded)
      (ok : rule.compile = .ok r) : IsEvenHanded r
  | reweighted {r : CompiledRule} (even : IsEvenHanded r) (strength : Float) :
      IsEvenHanded { r with strength }

/-- What a rule does that is even-handed. -/
structure IsSymmetric (r : CompiledRule) : Prop where
  extract_eq : r.against = r.extract
  scorer : r.scorer.IsSymmetric

/-- Only the extractor can keep an even-handed rule from compiling. -/
theorem exists_isSymmetric {rule : Rule} (even : rule.IsEvenHanded) {extract : Extractor}
    (extracts : Rule.compileExtractor (rule.extractor.getD Expression.subjectName) = .ok extract) :
    ∃ r, rule.compile = .ok r ∧ r.IsSymmetric := by
  obtain ⟨s, compiles, symmetric⟩ := Scorer.exists_isSymmetric even.scorer
  simp only [Rule.compile, even.against, extracts, compiles]
  exact ⟨_, rfl, rfl, symmetric⟩

theorem isSymmetric_of_compile {rule : Rule} {r : CompiledRule} (even : rule.IsEvenHanded)
    (ok : rule.compile = .ok r) : r.IsSymmetric := by
  cases extracts : Rule.compileExtractor (rule.extractor.getD Expression.subjectName) with
  | error e =>
      simp only [Rule.compile, extracts] at ok
      cases ok
  | ok extract =>
      obtain ⟨compiled, compiles, symmetric⟩ := exists_isSymmetric even extracts
      have same : compiled = r := Except.ok.inj (compiles.symm.trans ok)
      exact same ▸ symmetric

theorem IsEvenHanded.isSymmetric {r : CompiledRule} (even : r.IsEvenHanded) : r.IsSymmetric := by
  induction even with
  | compiled even ok => exact isSymmetric_of_compile even ok
  | reweighted _ _ ih => exact ⟨ih.extract_eq, ih.scorer⟩

theorem mirrored_weigh (r : CompiledRule) {x y : Except EvalError Value}
    (results : Mirrored Except.error x y) :
    Mirrored .failed (r.weigh (.ofResult x)) (r.weigh (.ofResult y)) := by
  cases results with
  | same x => exact .same _
  | failures e f => exact .failures e f

/-- With the subjects swapped a rule comes to the same, or fails both times. -/
theorem mirrored_outcome {r : CompiledRule} (symmetric : r.IsSymmetric) (left right : Value)
    (ns : Namespace) :
    Mirrored .failed (r.outcome left right ns) (r.outcome right left ns) := by
  unfold outcome
  rw [symmetric.extract_eq]
  -- After a failure on the left nothing is taken from the right subject. So if both fail, the runs
  -- report different errors, but each reports one.
  cases r.extract left ns with
  | error e =>
      cases r.extract right ns with
      | error f => exact .failures e f
      | ok v => exact .failures e e
  | ok l =>
      cases r.extract right ns with
      | error f => exact .failures f f
      | ok v =>
          -- Both runs have both values, and either of them can be the null that skips the rule.
          dsimp only
          rw [Bool.or_comm v.isNull]
          by_cases skips : (l.isNull || v.isNull) = true
          · simp only [if_pos skips]
            exact .same _
          · simp only [if_neg skips]
            obtain ⟨x, y, there, back, results⟩ := symmetric.scorer l v ns
            rw [there, back]
            exact r.mirrored_weigh results

end CompiledRule

/-! ## Runs -/

/-- Two runs between which only the texts of failures differ. -/
structure Execution.Mirrors (x y : Execution) : Prop where
  score_eq : x.score = y.score
  total_eq : x.total = y.total
  errors : List.Forall₂ (Mirrored .eval) x.errors y.errors
  details : List.Forall₂ (Entries.Related (Mirrored RuleDetail.failed)) x.details y.details

namespace Execution

theorem Mirrors.refl (x : Execution) : x.Mirrors x where
  score_eq := rfl
  total_eq := rfl
  errors := List.forall₂_same.mpr fun e _ => .same e
  details := List.forall₂_same.mpr fun d _ => ⟨rfl, .same d.2⟩

theorem Mirrors.record {x y : Execution} (mirrors : x.Mirrors y) (r : CompiledRule)
    {o p : RuleOutcome} (outcomes : Mirrored .failed o p) :
    (x.record r o).Mirrors (y.record r p) := by
  cases outcomes with
  | failures e f =>
      refine ⟨mirrors.score_eq, ?_, ?_, ?_⟩
      · show x.total + r.strength = y.total + r.strength
        rw [mirrors.total_eq]
      · exact List.rel_append mirrors.errors (.cons (.failures e f) .nil)
      · exact Entries.forall₂_insert mirrors.details r.criteria (.failures _ _)
  | same o =>
      refine ⟨?_, ?_, ?_, ?_⟩
      · rw [record_score, record_score, mirrors.score_eq]
      · rw [record_total, record_total, mirrors.total_eq]
      · rw [record_errors, record_errors]
        exact List.rel_append mirrors.errors (List.forall₂_same.mpr fun e _ => .same e)
      · have inserted (d : RuleDetail) := Entries.forall₂_insert mirrors.details r.criteria (.same d)
        cases o with
        | skipped => exact mirrors.details
        | failed error => exact inserted (.failed error.message)
        | scored a p counts errors => exact inserted (.scored a p)

theorem Mirrors.resume {rules : List CompiledRule} (symmetric : ∀ r ∈ rules, r.IsSymmetric)
    (left right : Value) (ns : Namespace) {x y : Execution} (mirrors : x.Mirrors y) :
    (x.resume rules left right ns).Mirrors (y.resume rules right left ns) := by
  induction rules generalizing x y with
  | nil => exact mirrors
  | cons r rest ih =>
      obtain ⟨first, later⟩ := List.forall_mem_cons.mp symmetric
      rw [resume_cons, resume_cons]
      exact ih later (mirrors.record r (r.mirrored_outcome first left right ns))

theorem Mirrors.similarity?_eq {x y : Execution} (mirrors : x.Mirrors y) :
    x.similarity? = y.similarity? := by
  unfold similarity?
  rw [mirrors.score_eq, mirrors.total_eq]

theorem Mirrors.scored {x y : Execution} (mirrors : x.Mirrors y) (criterion : String)
    (achieved possible : Float) :
    x.details.lookup criterion = some (.scored achieved possible) ↔
      y.details.lookup criterion = some (.scored achieved possible) := by
  have related := Entries.lookup_rel mirrors.details criterion
  generalize x.details.lookup criterion = found at related ⊢
  generalize y.details.lookup criterion = foundToo at related ⊢
  cases related with
  | none => simp
  | some details =>
      cases details with
      | same d => rfl
      | failures e f => simp

/-- Even-handed rules find the subjects as similar in one order as in the other. The criteria with
details are the same and so are all scores; failures are at the same places, but their texts may be
others. -/
theorem execute_swap {rules : List CompiledRule} (even : ∀ r ∈ rules, r.IsEvenHanded)
    (left right : Value) (ns : Namespace) :
    let there := execute rules left right ns
    let back := execute rules right left ns
    there.score = back.score ∧ there.total = back.total ∧
      there.similarity? = back.similarity? ∧ there.confidence? = back.confidence? ∧
      there.details.map Prod.fst = back.details.map Prod.fst ∧
      (∀ criterion achieved possible,
        there.details.lookup criterion = some (.scored achieved possible) ↔
          back.details.lookup criterion = some (.scored achieved possible)) ∧
      List.Forall₂ (Mirrored ScoreError.eval) there.errors back.errors := by
  intro there back
  have symmetric : ∀ r ∈ rules, r.IsSymmetric := fun r mem => (even r mem).isSymmetric
  have mirrors : there.Mirrors back := (Mirrors.refl {}).resume symmetric left right ns
  have similarity : there.similarity? = back.similarity? := mirrors.similarity?_eq
  have confidence : there.confidence? = back.confidence? := by
    unfold confidence?
    rw [similarity]
  exact ⟨mirrors.score_eq, mirrors.total_eq, similarity, confidence,
    Entries.keys_eq_of_forall₂ mirrors.details, mirrors.scored, mirrors.errors⟩

/-- One rule of each kind. The first one fails for the null subject, whichever side that is on. -/
theorem execute_swap_written :
    let written : List Rule := [
      { criteria := "age", extractor := some "_.age", scorer := some "linear:0;10;20" },
      { criteria := "name", strength := some 2.0, scorer := some "l == r" }, { criteria := "note" }]
    let left : Value := .object [("age", .zero)]
    ∃ rules, written.mapM Rule.compile = .ok rules ∧ (∀ r ∈ rules, r.IsEvenHanded) ∧
      (execute rules left .null {}).similarity? = (execute rules .null left {}).similarity? := by
  intro written left
  have range : (RangeSpec.parse? "linear:0;10;20").isSome := by
    have split : RangeSpec.split? "linear:0;10;20".toList =
        some ("linear".toList, ['0'], ['1', '0'], ['2', '0']) := by cbv
    unfold RangeSpec.parse?
    rw [split]
    decide +kernel
  have evenWritten : ∀ rule ∈ written, rule.IsEvenHanded := by
    simp only [written, List.forall_mem_cons]
    refine ⟨⟨rfl, fun source same => .inl ?_⟩, ⟨rfl, fun source same => .inr ?_⟩,
      ⟨rfl, nofun⟩, nofun⟩
    · cases same
      exact range
    · cases same
      rfl
  have extracts : (written.all fun rule =>
      (Rule.compileExtractor (rule.extractor.getD Expression.subjectName)).isOk) = true := by
    decide +kernel
  have compiles : ∀ rule ∈ written, ∃ r, rule.compile = .ok r := by
    intro rule mem
    have works := List.all_eq_true.mp extracts rule mem
    cases extractor : Rule.compileExtractor (rule.extractor.getD Expression.subjectName) with
    | error e => simp [extractor, Except.isOk, Except.toBool] at works
    | ok extract =>
        obtain ⟨r, ok, -⟩ := CompiledRule.exists_isSymmetric (evenWritten rule mem) extractor
        exact ⟨r, ok⟩
  obtain ⟨rules, results⟩ := Traversal.exists_mapM_eq_ok_iff.mpr compiles
  have even : ∀ r ∈ rules, r.IsEvenHanded := by
    intro r mem
    obtain ⟨rule, isWritten, ok⟩ := (Traversal.mem_iff_of_mapM_eq_ok results).mp mem
    exact .compiled (evenWritten rule isWritten) ok
  obtain ⟨-, -, similarity, -⟩ := execute_swap even left .null {}
  exact ⟨rules, results, even, similarity⟩

end Execution

end Semblance
