import Mathlib.Data.Finset.Card
import Semblance.Proofs.Execution.Skipped
import Semblance.Proofs.RuleSet.Loading

/-!
# What rule sets go through

A rule set is new or loaded, and then rules are pushed onto it, some of which are refused. Whatever
it goes through, its criteria stay different, so that a run has room for the detail of each rule.
The limit on the number of rules is looked at when rules are loaded, but not when one is pushed: it
holds for as long as there are not too many criteria.
-/

namespace Semblance.RuleSet

/-- The sets that rules are pushed onto to begin with. -/
inductive IsStart : RuleSet → Prop where
  | new : IsStart {}
  | loaded {rules : List Rule} {s : RuleSet} (ok : ofRules rules = .ok s) : IsStart s

/-- The set after one push. A push that fails leaves the set as it is. -/
def tryPush (s : RuleSet) (r : CompiledRule) : RuleSet :=
  match s.push r with
  | .ok larger => larger
  | .error _ => s

/-- The set after several pushes, each of which may fail. -/
def after (s : RuleSet) (pushes : List CompiledRule) : RuleSet := pushes.foldl tryPush s

variable {s : RuleSet} {r : CompiledRule}

/-! ## One push -/

theorem push_of_not_mem (fresh : r.criteria ∉ s.criteria) :
    s.push r = .ok { rules := s.rules ++ [r] } := by
  have unmet : s.rules.findIdx? (·.criteria = r.criteria) = none := by
    rw [List.findIdx?_eq_none_iff]
    intro q mem
    rw [decide_eq_false_iff_not]
    intro same
    exact fresh (List.mem_map.mpr ⟨q, mem, same⟩)
  rw [push, unmet]

/-- Of different criteria, one is found at its only place. -/
theorem push_of_getElem? (distinct : s.criteria.Nodup) {place : Nat}
    (there : s.criteria[place]? = some r.criteria) :
    s.push r = .error (.duplicateCriteria s.size place r.criteria) := by
  obtain ⟨below, found⟩ := List.getElem?_eq_some_iff.mp there
  have inside : place < s.rules.length := by
    rwa [length_criteria] at below
  have met : s.rules.findIdx? (·.criteria = r.criteria) = some place := by
    rw [List.findIdx?_eq_some_iff_getElem]
    refine ⟨inside, ?_, fun earlier before => ?_⟩
    · simpa [criteria] using found
    · -- A place before it would hold the same criterion a second time.
      rw [decide_eq_true_eq]
      intro same
      have lower : earlier < s.criteria.length := Nat.lt_trans before below
      have twice : s.criteria[earlier] = s.criteria[place] := by
        rw [found]
        simpa [criteria] using same
      exact Nat.ne_of_lt before ((distinct.getElem_inj_iff).mp twice)
  rw [push, met]

theorem tryPush_of_not_mem (fresh : r.criteria ∉ s.criteria) :
    s.tryPush r = { rules := s.rules ++ [r] } := by
  rw [tryPush, push_of_not_mem fresh]

theorem tryPush_of_mem (distinct : s.criteria.Nodup) (there : r.criteria ∈ s.criteria) :
    s.tryPush r = s := by
  obtain ⟨place, found⟩ := List.mem_iff_getElem?.mp there
  rw [tryPush, push_of_getElem? distinct found]

theorem push_eq_error_iff (distinct : s.criteria.Nodup) {error : RuleSetError} :
    s.push r = .error error ↔ ∃ place, s.criteria[place]? = some r.criteria ∧
      error = .duplicateCriteria s.size place r.criteria := by
  constructor
  · intro fails
    by_cases there : r.criteria ∈ s.criteria
    · obtain ⟨place, found⟩ := List.mem_iff_getElem?.mp there
      rw [push_of_getElem? distinct found] at fails
      cases fails
      exact ⟨place, found, rfl⟩
    · rw [push_of_not_mem there] at fails
      cases fails
  · rintro ⟨place, found, rfl⟩
    exact push_of_getElem? distinct found

theorem push_eq_ok_iff (distinct : s.criteria.Nodup) {larger : RuleSet} :
    s.push r = .ok larger ↔ r.criteria ∉ s.criteria ∧ larger.rules = s.rules ++ [r] := by
  constructor
  · intro succeeds
    by_cases there : r.criteria ∈ s.criteria
    · obtain ⟨place, found⟩ := List.mem_iff_getElem?.mp there
      rw [push_of_getElem? distinct found] at succeeds
      cases succeeds
    · rw [push_of_not_mem there] at succeeds
      cases succeeds
      exact ⟨there, rfl⟩
  · rintro ⟨fresh, appended⟩
    rw [push_of_not_mem fresh, ← appended]

theorem criteria_tryPush_of_not_mem (fresh : r.criteria ∉ s.criteria) :
    (s.tryPush r).criteria = s.criteria ++ [r.criteria] := by
  rw [tryPush_of_not_mem fresh, criteria, List.map_append]
  rfl

theorem nodup_criteria_tryPush (distinct : s.criteria.Nodup) (r : CompiledRule) :
    (s.tryPush r).criteria.Nodup := by
  by_cases there : r.criteria ∈ s.criteria
  · rwa [tryPush_of_mem distinct there]
  · rw [criteria_tryPush_of_not_mem there]
    rw [← List.concat_eq_append]
    exact distinct.concat there

theorem mem_criteria_tryPush (distinct : s.criteria.Nodup) {criterion : String} :
    criterion ∈ (s.tryPush r).criteria ↔ criterion ∈ s.criteria ∨ criterion = r.criteria := by
  by_cases there : r.criteria ∈ s.criteria
  · rw [tryPush_of_mem distinct there, iff_self_or]
    rintro rfl
    exact there
  · rw [criteria_tryPush_of_not_mem there, List.mem_append, List.mem_singleton]

/-! ## Several pushes -/

theorem after_cons (s : RuleSet) (r : CompiledRule) (pushes : List CompiledRule) :
    s.after (r :: pushes) = (s.tryPush r).after pushes :=
  rfl

theorem nodup_criteria_after (distinct : s.criteria.Nodup) (pushes : List CompiledRule) :
    (s.after pushes).criteria.Nodup := by
  induction pushes generalizing s with
  | nil => exact distinct
  | cons r rest ih =>
      rw [after_cons]
      exact ih (nodup_criteria_tryPush distinct r)

/-- Every criterion that was ever pushed is there. -/
theorem mem_criteria_after (distinct : s.criteria.Nodup) {pushes : List CompiledRule}
    {criterion : String} : criterion ∈ (s.after pushes).criteria ↔
      criterion ∈ s.criteria ∨ criterion ∈ pushes.map (·.criteria) := by
  induction pushes generalizing s with
  | nil => simp [after]
  | cons r rest ih =>
      rw [after_cons, ih (nodup_criteria_tryPush distinct r), mem_criteria_tryPush distinct,
        List.map_cons, List.mem_cons, or_assoc]

theorem IsStart.nodup_criteria (start : IsStart s) : s.criteria.Nodup := by
  cases start with
  | new => exact List.nodup_nil
  | loaded ok =>
      rw [criteria_of_ofRules ok]
      exact (ofRules_eq_ok_iff.mp ok).2.2

theorem IsStart.size_le (start : IsStart s) : s.size ≤ maxRules := by
  cases start with
  | new => exact Nat.zero_le _
  | loaded ok =>
      rw [← length_criteria, criteria_of_ofRules ok, List.length_map]
      exact (ofRules_eq_ok_iff.mp ok).1

/-! ## Different criteria -/

/-- A rule set whose criteria are different, and stay so. -/
structure IsKeyed (s : RuleSet) : Prop where
  distinct : s.criteria.Nodup
  /-- A push fails when the criterion is there, and names the place of the rule that has it. -/
  push_error_iff : ∀ r error, s.push r = .error error ↔
    ∃ place, s.criteria[place]? = some r.criteria ∧
      error = .duplicateCriteria s.size place r.criteria
  /-- Else the rule comes last. -/
  push_ok_iff : ∀ r larger, s.push r = .ok larger ↔
    r.criteria ∉ s.criteria ∧ larger.rules = s.rules ++ [r]
  tryPush_of_mem : ∀ r, r.criteria ∈ s.criteria → s.tryPush r = s
  /-- In a run, each rule leaves a detail of its own or is skipped. -/
  details_add_skipped : ∀ left right ns, (s.execute left right ns).details.length +
    s.rules.countP (·.skips left right ns) = s.size

/-- No two rules share a criterion, whatever a rule set has gone through. -/
theorem isKeyed_after {start : RuleSet} (isStart : IsStart start) (pushes : List CompiledRule) :
    IsKeyed (start.after pushes) := by
  have distinct : (start.after pushes).criteria.Nodup :=
    nodup_criteria_after isStart.nodup_criteria pushes
  exact {
    distinct
    push_error_iff := fun r error => push_eq_error_iff distinct
    push_ok_iff := fun r larger => push_eq_ok_iff distinct
    tryPush_of_mem := fun r there => tryPush_of_mem distinct there
    details_add_skipped := fun left right ns =>
      Execution.length_details_add_countP_skips distinct }

/-- Two rules are loaded, one of them is pushed again, and a third one is new. -/
theorem isKeyed_after_loading :
    let rules : List Rule := [{ criteria := "length", strength := some 2.0 }, { criteria := "name" }]
    let identity : Extractor := fun subject _ => .ok subject
    let again : CompiledRule :=
      { criteria := "name", extract := identity, against := identity, scorer := .constant }
    let further : CompiledRule :=
      { criteria := "age", extract := identity, against := identity, scorer := .constant }
    ∃ start, ofRules rules = .ok start ∧ IsStart start ∧
      IsKeyed (start.after [again, further]) := by
  intro rules identity again further
  have compiles : ∀ rule ∈ rules, ∃ compiled, rule.compile = .ok compiled := by
    simp only [rules, List.forall_mem_cons]
    exact ⟨Rule.exists_compile_of_plain rfl rfl rfl, Rule.exists_compile_of_plain rfl rfl rfl, nofun⟩
  obtain ⟨start, ok⟩ := exists_ofRules_eq_ok_iff.mpr
    ⟨by decide, compiles, by simp [rules]⟩
  exact ⟨start, ok, .loaded ok, isKeyed_after (.loaded ok) [again, further]⟩

/-! ## The limit -/

/-- There are as many rules as there are different criteria among all that were loaded or pushed. -/
theorem size_after (distinct : s.criteria.Nodup) (pushes : List CompiledRule) :
    (s.after pushes).size = (s.criteria ++ pushes.map (·.criteria)).toFinset.card := by
  have same : (s.after pushes).criteria.toFinset =
      (s.criteria ++ pushes.map (·.criteria)).toFinset := by
    ext criterion
    rw [List.mem_toFinset, List.mem_toFinset, List.mem_append, mem_criteria_after distinct]
  rw [← same, List.toFinset_card_of_nodup (nodup_criteria_after distinct pushes), length_criteria]

/-- A set starts within the limit, and is within it exactly while there are no more criteria than
the limit allows rules: a push does not ask how many rules there are. -/
theorem size_after_le_maxRules_iff {start : RuleSet} (isStart : IsStart start) :
    start.size ≤ maxRules ∧ ∀ pushes : List CompiledRule, (start.after pushes).size ≤ maxRules ↔
      (start.criteria ++ pushes.map (·.criteria)).toFinset.card ≤ maxRules := by
  refine ⟨isStart.size_le, fun pushes => ?_⟩
  rw [size_after isStart.nodup_criteria]

/-- The criterion of a numbered rule. -/
def numbered (i : Nat) : String := s!"rule {i}"

theorem numbered_injective : Function.Injective numbered := by
  intro i j same
  exact Nat.repr_inj.mp ((String.append_right_inj _).mp same)

/-- As many rules as there may be, none of them with an expression. -/
def fullRules : List Rule := (List.range maxRules).map fun i => { criteria := numbered i }

theorem criteria_fullRules : fullRules.map (·.criteria) = (List.range maxRules).map numbered := by
  rw [fullRules, List.map_map]
  rfl

theorem exists_ofRules_fullRules : ∃ start, ofRules fullRules = .ok start := by
  have few : fullRules.length ≤ maxRules := by
    rw [fullRules, List.length_map, List.length_range]
  have distinct : (fullRules.map (·.criteria)).Nodup := by
    rw [criteria_fullRules]
    exact List.nodup_range.map numbered_injective
  refine exists_ofRules_eq_ok_iff.mpr ⟨few, fun rule mem => ?_, distinct⟩
  obtain ⟨i, -, rfl⟩ := List.mem_map.mp mem
  exact Rule.exists_compile_of_plain rfl rfl rfl

/-- A set that is full when it is loaded stays within the limit only by pushes that fail. -/
theorem size_after_le_maxRules_iff_full :
    ∃ start, ofRules fullRules = .ok start ∧ IsStart start ∧ start.size ≤ maxRules ∧
      ∀ pushes : List CompiledRule, (start.after pushes).size ≤ maxRules ↔
        (start.criteria ++ pushes.map (·.criteria)).toFinset.card ≤ maxRules := by
  obtain ⟨start, ok⟩ := exists_ofRules_fullRules
  have isStart : IsStart start := .loaded ok
  exact ⟨start, ok, isStart, size_after_le_maxRules_iff isStart⟩

/-- A rule that is pushed onto a full set is one more than the limit allows. -/
theorem exists_maxRules_lt_size_after :
    let identity : Extractor := fun subject _ => .ok subject
    let further : CompiledRule :=
      { criteria := numbered maxRules, extract := identity, against := identity, scorer := .constant }
    ∃ start, ofRules fullRules = .ok start ∧ (start.after [further]).size = maxRules + 1 := by
  intro identity further
  obtain ⟨start, ok⟩ := exists_ofRules_fullRules
  have held : start.criteria = (List.range maxRules).map numbered := by
    rw [criteria_of_ofRules ok, criteria_fullRules]
  have fresh : further.criteria ∉ start.criteria := by
    rw [held]
    intro there
    obtain ⟨i, below, same⟩ := List.mem_map.mp there
    exact Nat.ne_of_lt (List.mem_range.mp below) (numbered_injective same)
  refine ⟨start, ok, ?_⟩
  rw [after_cons, after, List.foldl_nil, ← length_criteria, criteria_tryPush_of_not_mem fresh, held,
    List.length_append, List.length_map, List.length_range]
  rfl

end Semblance.RuleSet
