import Semblance.Proofs.Traversal
import Semblance.RuleSet

/-!
# Loading rule sets

While rules are loaded, a map holds the place of every criterion met so far. What a list of rules
loads to can be said without it: each rule compiled, in the order of the list. The list loads exactly
when there are not too many rules, every rule compiles and no criterion is there twice.
-/

namespace Semblance

/-- Compiling does not touch the criterion. -/
theorem Rule.criteria_of_compile {rule : Rule} {compiled : CompiledRule}
    (ok : rule.compile = .ok compiled) : compiled.criteria = rule.criteria := by
  simp only [Rule.compile, bind, Except.bind, pure, Except.pure] at ok
  repeat' split at ok
  all_goals cases ok
  all_goals rfl

/-- A rule that names no expression compiles. -/
theorem Rule.exists_compile_of_plain {rule : Rule} (extractor : rule.extractor = none)
    (against : rule.against = none) (scorer : rule.scorer = none) :
    ∃ compiled, rule.compile = .ok compiled := by
  have works : (compileExtractor Expression.subjectName).isOk = true := by decide +kernel
  cases extracts : compileExtractor Expression.subjectName with
  | error error =>
      rw [extracts] at works
      cases works
  | ok extract =>
      simp only [compile, extractor, against, scorer, Option.getD_none, extracts]
      exact ⟨_, rfl⟩

namespace RuleSet

/-- The criteria of the rules, in their order. -/
def criteria (s : RuleSet) : List String := s.rules.map (·.criteria)

theorem length_criteria (s : RuleSet) : s.criteria.length = s.size := List.length_map _

/-- What has to hold of the first rule, and of the others once its place is kept. -/
theorem compileFrom_cons_eq_ok_iff {first : Std.HashMap String Nat} {index : Nat} {rule : Rule}
    {rest : List Rule} {compiled : List CompiledRule} :
    compileFrom first index (rule :: rest) = .ok compiled ↔
      ∃ head others, compiled = head :: others ∧ first[rule.criteria]? = none ∧
        rule.compile = .ok head ∧
        compileFrom (first.insert rule.criteria index) (index + 1) rest = .ok others := by
  rw [compileFrom]
  cases first[rule.criteria]? with
  | some place => simp
  | none =>
      cases rule.compile with
      | error error => simp
      | ok head =>
          cases compileFrom (first.insert rule.criteria index) (index + 1) rest with
          | error error => simp [bind, Except.bind]
          | ok others => simp [bind, Except.bind, pure, Except.pure, eq_comm]

theorem getElem?_insert_eq_none_iff {first : Std.HashMap String Nat} {criterion other : String}
    {index : Nat} : (first.insert criterion index)[other]? = none ↔
      other ≠ criterion ∧ first[other]? = none := by
  rw [Std.HashMap.getElem?_insert]
  by_cases same : criterion = other
  · simp [same]
  · simp [same, Ne.symm same]

/-- Rules load when each compiles and no criterion is there twice or was met before. -/
theorem compileFrom_eq_ok_iff {first : Std.HashMap String Nat} {index : Nat} {rules : List Rule}
    {compiled : List CompiledRule} : compileFrom first index rules = .ok compiled ↔
      rules.map Rule.compile = compiled.map .ok ∧ (rules.map (·.criteria)).Nodup ∧
        ∀ rule ∈ rules, first[rule.criteria]? = none := by
  induction rules generalizing first index compiled with
  | nil => cases compiled <;> simp [compileFrom]
  | cons rule rest ih =>
      simp only [compileFrom_cons_eq_ok_iff, ih, getElem?_insert_eq_none_iff, List.map_cons,
        List.nodup_cons, List.forall_mem_cons]
      constructor
      · rintro ⟨head, others, rfl, fresh, ok, results, distinct, later⟩
        have notAgain : rule.criteria ∉ rest.map (·.criteria) := by
          intro again
          obtain ⟨other, mem, same⟩ := List.mem_map.mp again
          exact (later other mem).1 same
        refine ⟨?_, ⟨notAgain, distinct⟩, fresh, fun other mem => (later other mem).2⟩
        rw [ok, results, List.map_cons]
      · rintro ⟨results, ⟨notAgain, distinct⟩, fresh, later⟩
        cases compiled with
        | nil => cases results
        | cons head others =>
            obtain ⟨ok, results⟩ := List.cons_eq_cons.mp results
            refine ⟨head, others, rfl, fresh, ok, results, distinct, fun other mem => ⟨?_, ?_⟩⟩
            · intro same
              exact notAgain (same ▸ List.mem_map_of_mem mem)
            · exact later other mem

/-- A list of rules loads as a whole, rule by rule and in order, or not at all. -/
theorem ofRules_eq_ok_iff {rules : List Rule} {s : RuleSet} : ofRules rules = .ok s ↔
    rules.length ≤ maxRules ∧ rules.map Rule.compile = s.rules.map .ok ∧
      (rules.map (·.criteria)).Nodup := by
  rw [ofRules, checkRuleCount]
  by_cases many : maxRules < rules.length
  · simp [many, Nat.not_le_of_lt many]
  · have loads : compileFrom ∅ 0 rules = .ok s.rules ↔ rules.map Rule.compile = s.rules.map .ok ∧
        (rules.map (·.criteria)).Nodup := by
      rw [compileFrom_eq_ok_iff]
      simp
    rw [← loads, if_neg many]
    cases compileFrom ∅ 0 rules with
    | error error => simp [bind, Except.bind]
    | ok compiled =>
        obtain ⟨held⟩ := s
        simp [bind, Except.bind, pure, Except.pure, Nat.le_of_not_lt many]

theorem exists_ofRules_eq_ok_iff {rules : List Rule} : (∃ s, ofRules rules = .ok s) ↔
    rules.length ≤ maxRules ∧ (∀ rule ∈ rules, ∃ compiled, rule.compile = .ok compiled) ∧
      (rules.map (·.criteria)).Nodup := by
  rw [← Traversal.exists_mapM_eq_ok_iff]
  simp only [ofRules_eq_ok_iff, Traversal.mapM_eq_ok_iff]
  constructor
  · rintro ⟨s, few, results, distinct⟩
    exact ⟨few, ⟨s.rules, results⟩, distinct⟩
  · rintro ⟨few, ⟨compiled, results⟩, distinct⟩
    exact ⟨{ rules := compiled }, few, results, distinct⟩

theorem map_criteria_eq {rules : List Rule} {compiled : List CompiledRule}
    (results : rules.map Rule.compile = compiled.map .ok) :
    compiled.map (·.criteria) = rules.map (·.criteria) := by
  induction rules generalizing compiled with
  | nil =>
      cases compiled with
      | nil => rfl
      | cons head others => cases results
  | cons rule rest ih =>
      cases compiled with
      | nil => cases results
      | cons head others =>
          obtain ⟨ok, results⟩ := List.cons_eq_cons.mp results
          rw [List.map_cons, List.map_cons, Rule.criteria_of_compile ok, ih results]

theorem criteria_of_ofRules {rules : List Rule} {s : RuleSet} (ok : ofRules rules = .ok s) :
    s.criteria = rules.map (·.criteria) :=
  map_criteria_eq (ofRules_eq_ok_iff.mp ok).2.1

end RuleSet

end Semblance
