import Mathlib.Data.List.Nodup
import Mathlib.Order.Bounds.Basic
import Semblance.Proofs.RuleSet.Loading

/-!
# The first fault of a list of rules

A list of rules that does not load is refused because of one of them: the first that has a criterion
of a rule before it or that does not compile. A criterion that was there before is reported with the
place where it was, and no attempt is made to compile the rule.
-/

namespace Semblance.RuleSet

/-! ## Faults -/

/-- A rule before this place of the list has the criterion. -/
def Repeats (rules : List Rule) (i : Nat) (criterion : String) (first : Nat) : Prop :=
  first < i ∧ (rules.map (·.criteria))[first]? = some criterion

/-- A rule that cannot be loaded after the rules before it. -/
def IsFaulty (rules : List Rule) (i : Nat) : Prop :=
  ∃ rule, rules[i]? = some rule ∧
    ((∃ first, Repeats rules i rule.criteria first) ∨ ∃ error, rule.compile = .error error)

/-- What is said of a faulty rule. -/
inductive Reports (rules : List Rule) (i : Nat) : RuleSetError → Prop where
  /-- The criterion is there once before, and where it is there counts alone. -/
  | repeated {rule : Rule} {first : Nat} (there : rules[i]? = some rule)
      (before : Repeats rules i rule.criteria first)
      (only : ∀ other, Repeats rules i rule.criteria other → other = first) :
      Reports rules i (.duplicateCriteria i first rule.criteria)
  | broken {rule : Rule} {error : RuleError} (there : rules[i]? = some rule)
      (fresh : ∀ first, ¬ Repeats rules i rule.criteria first)
      (fails : rule.compile = .error error) :
      Reports rules i (.invalidRule i rule.criteria error)

/-- What a list of rules loads to. -/
inductive LoadsTo (rules : List Rule) : Except RuleSetError RuleSet → Prop where
  | tooMany (many : maxRules < rules.length) :
      LoadsTo rules (.error (.limit (.ruleCount rules.length)))
  | whole {s : RuleSet} (few : rules.length ≤ maxRules)
      (distinct : (rules.map (·.criteria)).Nodup)
      (compiled : rules.map Rule.compile = s.rules.map .ok) : LoadsTo rules (.ok s)
  | fault {i : Nat} {error : RuleSetError} (few : rules.length ≤ maxRules)
      (least : IsLeast {i | IsFaulty rules i} i) (reported : Reports rules i error) :
      LoadsTo rules (.error error)

/-- There is one thing to say of a faulty rule. -/
theorem Reports.unique {rules : List Rule} {i : Nat} {error other : RuleSetError}
    (reported : Reports rules i error) (again : Reports rules i other) : error = other := by
  cases reported with
  | repeated there before only =>
      cases again with
      | repeated there' before' only' =>
          cases there.symm.trans there'
          rw [only' _ before]
      | broken there' fresh' fails' =>
          cases there.symm.trans there'
          exact absurd before (fresh' _)
  | broken there fresh fails =>
      cases again with
      | repeated there' before' only' =>
          cases there.symm.trans there'
          exact absurd before' (fresh _)
      | broken there' fresh' fails' =>
          cases there.symm.trans there'
          cases fails.symm.trans fails'
          rfl

/-- No rule is faulty in a list with different criteria where every rule compiles. -/
theorem not_isFaulty_of_loads {rules : List Rule} {compiled : List CompiledRule}
    (distinct : (rules.map (·.criteria)).Nodup)
    (results : rules.map Rule.compile = compiled.map .ok) (i : Nat) : ¬ IsFaulty rules i := by
  rintro ⟨rule, there, ⟨first, before, same⟩ | ⟨error, fails⟩⟩
  · have here : (rules.map (·.criteria))[i]? = some rule.criteria := by
      rw [List.getElem?_map, there]
      rfl
    obtain ⟨below, found⟩ := List.getElem?_eq_some_iff.mp here
    obtain ⟨earlierBelow, earlierFound⟩ := List.getElem?_eq_some_iff.mp same
    exact Nat.ne_of_lt before (distinct.getElem_inj_iff.mp (earlierFound.trans found.symm))
  · have mem : Except.error error ∈ compiled.map Except.ok := by
      rw [← results, ← fails]
      exact List.mem_map_of_mem (List.mem_of_getElem? there)
    obtain ⟨_, -, ok⟩ := List.mem_map.mp mem
    cases ok

/-! ## One step of loading -/

/-- What the first rule can fail with, and the others once its place is kept. -/
theorem compileFrom_cons_eq_error {first : Std.HashMap String Nat} {index : Nat} {rule : Rule}
    {rest : List Rule} {error : RuleSetError}
    (fails : compileFrom first index (rule :: rest) = .error error) :
    (∃ place, first[rule.criteria]? = some place ∧
        error = .duplicateCriteria index place rule.criteria) ∨
      first[rule.criteria]? = none ∧
        ((∃ reason, rule.compile = .error reason ∧
            error = .invalidRule index rule.criteria reason) ∨
          (∃ compiled, rule.compile = .ok compiled) ∧
            compileFrom (first.insert rule.criteria index) (index + 1) rest = .error error) := by
  rw [compileFrom] at fails
  cases known : first[rule.criteria]? with
  | some place =>
      rw [known] at fails
      cases fails
      exact .inl ⟨place, rfl, rfl⟩
  | none =>
      rw [known] at fails
      refine .inr ⟨rfl, ?_⟩
      cases compiles : rule.compile with
      | error reason =>
          rw [compiles] at fails
          cases fails
          exact .inl ⟨reason, rfl, rfl⟩
      | ok compiled =>
          rw [compiles] at fails
          refine .inr ⟨⟨compiled, rfl⟩, ?_⟩
          cases later : compileFrom (first.insert rule.criteria index) (index + 1) rest with
          | error reason =>
              rw [later] at fails
              cases fails
              rfl
          | ok others =>
              rw [later] at fails
              cases fails

/-- The map holds the place of every criterion of the rules before, and no other. -/
def Records (first : Std.HashMap String Nat) (before : List Rule) : Prop :=
  ∀ (criterion : String) (place : Nat),
    first[criterion]? = some place ↔ (before.map (·.criteria))[place]? = some criterion

theorem records_empty : Records ∅ [] := by
  intro criterion place
  simp

theorem Records.insert {first : Std.HashMap String Nat} {before : List Rule} {rule : Rule}
    (records : Records first before) (fresh : first[rule.criteria]? = none) :
    Records (first.insert rule.criteria before.length) (before ++ [rule]) := by
  intro criterion place
  rw [Std.HashMap.getElem?_insert, List.map_append, List.getElem?_append, List.length_map,
    List.map_singleton]
  by_cases same : rule.criteria = criterion
  · subst same
    simp only [beq_self_eq_true, if_true, Option.some.injEq]
    split
    · rename_i inside
      -- An earlier rule with this criterion would be on record.
      rw [← records, fresh]
      exact iff_of_false (Nat.ne_of_gt inside) nofun
    · rename_i beyond
      rw [List.getElem?_singleton]
      split
      · exact iff_of_true (by omega) rfl
      · exact iff_of_false (by omega) nofun
  · rw [if_neg (by simpa using same), records]
    split
    · rfl
    · rename_i beyond
      rw [List.getElem?_singleton, List.getElem?_eq_none (by simpa using beyond)]
      split
      · exact iff_of_false nofun (by simpa using same)
      · rfl

/-! ## Loading -/

/-- When the rules before are all loaded, what fails is the first faulty rule of the whole list. -/
theorem exists_reports_of_compileFrom {first : Std.HashMap String Nat} {before rest : List Rule}
    {error : RuleSetError} (records : Records first before)
    (loaded : ∀ i < before.length, ¬ IsFaulty (before ++ rest) i)
    (fails : compileFrom first before.length rest = .error error) :
    ∃ i, IsLeast {i | IsFaulty (before ++ rest) i} i ∧ Reports (before ++ rest) i error := by
  induction rest generalizing first before with
  | nil =>
      rw [compileFrom] at fails
      cases fails
  | cons rule rest ih =>
      have there : (before ++ rule :: rest)[before.length]? = some rule := by
        rw [List.getElem?_append_right (Nat.le_refl _), Nat.sub_self]
        rfl
      have lower : before.length ∈ lowerBounds {i | IsFaulty (before ++ rule :: rest) i} :=
        fun i faulty => Nat.le_of_not_lt fun below => loaded i below faulty
      -- Below this place the criteria are those on record.
      have repeats (place : Nat) :
          Repeats (before ++ rule :: rest) before.length rule.criteria place ↔
            first[rule.criteria]? = some place := by
        rw [Repeats, records, List.map_append]
        constructor
        · rintro ⟨below, same⟩
          rwa [List.getElem?_append_left (by rwa [List.length_map])] at same
        · intro same
          obtain ⟨below, -⟩ := List.getElem?_eq_some_iff.mp same
          refine ⟨by rwa [List.length_map] at below, ?_⟩
          rwa [List.getElem?_append_left below]
      rcases compileFrom_cons_eq_error fails with
        ⟨place, known, rfl⟩ | ⟨fresh, ⟨reason, broken, rfl⟩ | ⟨compiles, later⟩⟩
      · have repeated := (repeats place).mpr known
        refine ⟨before.length, ⟨⟨rule, there, .inl ⟨place, repeated⟩⟩, lower⟩,
          .repeated there repeated fun other again => ?_⟩
        exact Option.some.inj (((repeats other).mp again).symm.trans known)
      · refine ⟨before.length, ⟨⟨rule, there, .inr ⟨reason, broken⟩⟩, lower⟩,
          .broken there (fun place again => ?_) broken⟩
        cases fresh.symm.trans ((repeats place).mp again)
      · have sound : ¬ IsFaulty (before ++ rule :: rest) before.length := by
          rintro ⟨other, same, ⟨place, again⟩ | ⟨reason, broken⟩⟩
          · cases there.symm.trans same
            cases fresh.symm.trans ((repeats place).mp again)
          · cases there.symm.trans same
            obtain ⟨compiled, ok⟩ := compiles
            cases ok.symm.trans broken
        have split : before ++ rule :: rest = before ++ [rule] ++ rest := by
          rw [List.append_assoc]
          rfl
        have length : (before ++ [rule]).length = before.length + 1 := by simp
        rw [split] at loaded sound ⊢
        refine ih (records.insert fresh) (fun i below => ?_) (by rw [length]; exact later)
        rw [length] at below
        rcases Nat.lt_succ_iff_lt_or_eq.mp below with earlier | rfl
        · exact loaded i earlier
        · exact sound

theorem loadsTo_ofRules (rules : List Rule) : LoadsTo rules (ofRules rules) := by
  cases result : ofRules rules with
  | ok s =>
      obtain ⟨few, compiled, distinct⟩ := ofRules_eq_ok_iff.mp result
      exact .whole few distinct compiled
  | error error =>
      rw [ofRules, checkRuleCount] at result
      by_cases many : maxRules < rules.length
      · rw [if_pos many] at result
        cases result
        exact .tooMany many
      · rw [if_neg many] at result
        cases run : compileFrom ∅ 0 rules with
        | ok compiled =>
            rw [run] at result
            cases result
        | error fault =>
            rw [run] at result
            cases result
            have none : ∀ i < ([] : List Rule).length, ¬ IsFaulty ([] ++ rules) i :=
              fun i below => absurd below (Nat.not_lt_zero i)
            obtain ⟨i, least, reported⟩ := exists_reports_of_compileFrom records_empty none run
            exact .fault (Nat.le_of_not_lt many) least reported

theorem LoadsTo.ofRules_eq {rules : List Rule} {result : Except RuleSetError RuleSet}
    (loads : LoadsTo rules result) : ofRules rules = result := by
  cases loads with
  | tooMany many => rw [ofRules, checkRuleCount, if_pos many]
  | whole few distinct compiled => exact ofRules_eq_ok_iff.mpr ⟨few, compiled, distinct⟩
  | fault few least reported =>
      have actual := loadsTo_ofRules rules
      generalize ofRules rules = outcome at actual
      cases actual with
      | tooMany many => exact absurd few (Nat.not_le_of_lt many)
      | whole _ distinct compiled =>
          exact absurd least.1 (not_isFaulty_of_loads distinct compiled _)
      | fault _ least' reported' =>
          cases least.unique least'
          rw [reported.unique reported']

/-- Loading gives the rules in their order, or says what is wrong with the first faulty one. It
succeeds exactly when there are not too many rules, no criterion is there twice and every rule
compiles. -/
theorem ofRules_eq_iff (rules : List Rule) :
    (∀ result, ofRules rules = result ↔ LoadsTo rules result) ∧
      ((∃ s, ofRules rules = .ok s) ↔ rules.length ≤ maxRules ∧
        (rules.map (·.criteria)).Nodup ∧
          ∀ rule ∈ rules, ∃ compiled, rule.compile = .ok compiled) := by
  refine ⟨fun result => ⟨?_, LoadsTo.ofRules_eq⟩, ?_⟩
  · rintro rfl
    exact loadsTo_ofRules rules
  · rw [exists_ofRules_eq_ok_iff]
    exact and_congr_right fun _ => and_comm

end Semblance.RuleSet
