import Semblance.Proofs.Execution.Run

/-!
# Rules are independent

Rules for different criteria do not see each other: a run over several rules is put together from
the runs over each of them alone. So a rule may come, go or break without the others noticing, and
the order of the rules shows only in the order of the errors and in how the sums are rounded.
-/

namespace Semblance.Execution

/-- A run that is put together from runs that have nothing to do with each other. -/
structure IsComposition (whole : Execution) (parts : List Execution) : Prop where
  /-- No two parts have a detail for one criterion. -/
  disjoint : parts.Pairwise fun x y => ∀ criterion,
    x.details.lookup criterion = none ∨ y.details.lookup criterion = none
  /-- The details are those of the parts, each once and in the order of the criteria. -/
  details_iff : ∀ criterion detail, whole.details.lookup criterion = some detail ↔
    ∃ part ∈ parts, part.details.lookup criterion = some detail
  sorted : Entries.Sorted whole.details
  /-- The errors are those of the parts, one part after the other. -/
  errors_eq : whole.errors = parts.flatMap (·.errors)
  /-- The sums are added up from the left. -/
  score_eq : whole.score = Binary64.sum (parts.map (·.score))
  total_eq : whole.total = Binary64.sum (parts.map (·.total))

variable {rules others : List CompiledRule} {left right : Value} {ns : Namespace}

/-! ## One rule alone -/

theorem errors_single (r : CompiledRule) :
    (execute [r] left right ns).errors = (r.outcome left right ns).errors := by
  rw [execute_errors, List.flatMap_singleton]

theorem score_single (r : CompiledRule) :
    (execute [r] left right ns).score = Binary64.sum (r.outcome left right ns).achieved := by
  rw [execute_score, List.flatMap_singleton]

theorem total_single (r : CompiledRule) :
    (execute [r] left right ns).total =
      Binary64.sum ((r.outcome left right ns).possible r.strength) := by
  rw [execute_total, List.flatMap_singleton]

theorem lookup_single_eq_some_iff (r : CompiledRule) {criterion : String} {detail : RuleDetail} :
    (execute [r] left right ns).details.lookup criterion = some detail ↔
      r.criteria = criterion ∧ (r.outcome left right ns).detail? = some detail := by
  have alone : ([r].map (·.criteria)).Nodup := List.nodup_singleton _
  rw [lookup_execute_eq_some_iff alone]
  simp

theorem lookup_single_of_ne {r : CompiledRule} {criterion : String}
    (other : r.criteria ≠ criterion) :
    (execute [r] left right ns).details.lookup criterion = none := by
  apply lookup_execute_of_forall_ne
  intro q mem
  rw [List.mem_singleton.mp mem]
  exact other

/-! ## All rules -/

theorem isComposition_execute (distinct : (rules.map (·.criteria)).Nodup) :
    IsComposition (execute rules left right ns) (rules.map fun r => execute [r] left right ns) where
  disjoint := by
    rw [List.pairwise_map]
    refine (List.pairwise_map.mp distinct).imp fun {r q} different criterion => ?_
    by_cases same : r.criteria = criterion
    · subst same
      exact .inr (lookup_single_of_ne different.symm)
    · exact .inl (lookup_single_of_ne same)
  details_iff criterion detail := by
    rw [lookup_execute_eq_some_iff distinct]
    constructor
    · rintro ⟨r, mem, left⟩
      exact ⟨_, List.mem_map_of_mem mem, (lookup_single_eq_some_iff r).mpr left⟩
    · rintro ⟨part, mem, found⟩
      obtain ⟨r, inRules, rfl⟩ := List.mem_map.mp mem
      exact ⟨r, inRules, (lookup_single_eq_some_iff r).mp found⟩
  sorted := sorted_execute rules left right ns
  errors_eq := by
    rw [execute_errors, List.flatMap_map]
    simp only [errors_single]
  score_eq := by
    rw [execute_score, List.map_map,
      Binary64.sum_flatMap _ fun r => (r.outcome left right ns).length_achieved]
    simp only [Function.comp_def, score_single]
  total_eq := by
    rw [execute_total, List.map_map,
      Binary64.sum_flatMap _ fun r => (r.outcome left right ns).length_possible r.strength]
    simp only [Function.comp_def, total_single]

theorem errors_append (before after : List CompiledRule) :
    (execute (before ++ after) left right ns).errors =
      (execute before left right ns).errors ++ (execute after left right ns).errors := by
  rw [execute_append, resume_errors, execute_errors after]

/-- A rule finds the same whatever other rules it is run with. -/
theorem lookup_execute_eq (distinct : (rules.map (·.criteria)).Nodup)
    (otherDistinct : (others.map (·.criteria)).Nodup) {r : CompiledRule} (mem : r ∈ rules)
    (otherMem : r ∈ others) :
    (execute rules left right ns).details.lookup r.criteria =
      (execute others left right ns).details.lookup r.criteria := by
  rw [lookup_execute distinct mem, lookup_execute otherDistinct otherMem]

/-- The order of the rules does not show in the details. -/
theorem details_eq_of_perm (distinct : (rules.map (·.criteria)).Nodup) (perm : others.Perm rules) :
    (execute others left right ns).details = (execute rules left right ns).details := by
  have otherDistinct : (others.map (·.criteria)).Nodup :=
    (perm.map (·.criteria)).nodup_iff.mpr distinct
  apply Entries.eq_of_lookup_eq (sorted_execute ..) (sorted_execute ..)
  intro criterion
  by_cases ruled : ∃ r ∈ rules, r.criteria = criterion
  · obtain ⟨r, mem, rfl⟩ := ruled
    exact lookup_execute_eq otherDistinct distinct (perm.mem_iff.mpr mem) mem
  · have unruled : ∀ r ∈ rules, r.criteria ≠ criterion := by
      intro r mem same
      exact ruled ⟨r, mem, same⟩
    rw [lookup_execute_of_forall_ne unruled,
      lookup_execute_of_forall_ne fun r mem => unruled r (perm.mem_iff.mp mem)]

theorem errors_perm (perm : others.Perm rules) :
    (execute others left right ns).errors.Perm (execute rules left right ns).errors := by
  rw [execute_errors, execute_errors]
  exact perm.flatMap_right _

/-- Rules with different criteria are independent. A run is the composition of the runs over single
rules; putting other rules in the place of some changes neither the details nor the errors of the
rules around them; and putting the rules in another order only permutes the errors. -/
theorem execute_independent (rules : List CompiledRule) (distinct : (rules.map (·.criteria)).Nodup)
    (left right : Value) (ns : Namespace) :
    IsComposition (execute rules left right ns)
        (rules.map fun r => execute [r] left right ns) ∧
      (∀ before old new after, rules = before ++ old ++ after →
        ((before ++ new ++ after).map (·.criteria)).Nodup →
          (∀ r ∈ before ++ after,
            (execute (before ++ new ++ after) left right ns).details.lookup r.criteria =
              (execute rules left right ns).details.lookup r.criteria) ∧
          (execute rules left right ns).errors =
            (execute before left right ns).errors ++ (execute old left right ns).errors ++
              (execute after left right ns).errors ∧
          (execute (before ++ new ++ after) left right ns).errors =
            (execute before left right ns).errors ++ (execute new left right ns).errors ++
              (execute after left right ns).errors) ∧
      ∀ others, others.Perm rules →
        (execute others left right ns).details = (execute rules left right ns).details ∧
          (execute others left right ns).errors.Perm (execute rules left right ns).errors := by
  refine ⟨isComposition_execute distinct, ?_, ?_⟩
  · rintro before old new after rfl newDistinct
    refine ⟨fun r mem => ?_, ?_, ?_⟩
    · apply lookup_execute_eq newDistinct distinct
      · rcases List.mem_append.mp mem with inBefore | inAfter
        · simp [inBefore]
        · simp [inAfter]
      · rcases List.mem_append.mp mem with inBefore | inAfter
        · simp [inBefore]
        · simp [inAfter]
    · rw [errors_append, errors_append]
    · rw [errors_append, errors_append]
  · intro others perm
    exact ⟨details_eq_of_perm distinct perm, errors_perm perm⟩

/-- One rule fails, one has nothing to compare, and one overflows. -/
theorem execute_independent_mixed :
    let failing : Extractor := fun _ _ => .error (.unknownIdentifier "s")
    let whole : Extractor := fun subject _ => .ok subject
    let huge : Scorer := .scored fun _ _ _ => { achieved := 1e300 }
    let rules : List CompiledRule := [
      { criteria := "name", extract := failing, against := whole, scorer := .constant },
      { criteria := "age", extract := whole, against := whole, scorer := .constant },
      { criteria := "city", strength := 1e300, extract := fun _ _ => .ok (.bool true),
        against := fun _ _ => .ok (.bool true), scorer := huge }]
    (rules.map (·.criteria)).Nodup ∧
      IsComposition (execute rules .null .null .empty)
        (rules.map fun r => execute [r] .null .null .empty) := by
  intro failing whole huge rules
  have distinct : (rules.map (·.criteria)).Nodup := by
    simp [rules]
  exact ⟨distinct, (execute_independent rules distinct .null .null .empty).1⟩

end Semblance.Execution
