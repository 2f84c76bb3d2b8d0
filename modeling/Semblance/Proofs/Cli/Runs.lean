import Semblance.Cli.Run
import Semblance.Proofs.Cli.Reports
import Semblance.Proofs.RuleSet.Loading

/-!
# Runs that print columns

A scoring or a listing whose inputs can be read does not fail, and prints its report. In columns
that is one line below the names of the columns for each criterion or rule, and one for the sums of
a scoring: a table from which all rows are read back, as long as no text of a rule and no message has
a tab or a line feed in it, and no table otherwise.
-/

namespace Semblance.Cli

/-! ## Reading inputs -/

variable {inputs between rest : Inputs}

/-- The subjects and the namespace that a scoring reads once its rules are loaded. -/
def readSubjects (paths : ScoredPaths) (ns : Option String) :
    Reading (Value × Value × Namespace) := do
  let left ← readJson paths.left
  let right ← readJson paths.right
  return (left, right, ← loadNamespace ns)

theorem finish_of_ok {α : Type} {stderr : String} {step : Reading α} {a : α}
    (read : step inputs = .ok (a, rest)) (next : α → Inputs → Outcome) :
    finish stderr step inputs next = next a rest := by
  rw [finish, read]

theorem runScore_of_read {format : Format} {verbose : Bool} (paths : ScoredPaths)
    {ns : Option String} {set : RuleSet} {left right : Value} {fields : Namespace}
    (rules : loadRules paths.rules inputs = .ok (set, between))
    (subjects : readSubjects paths ns between = .ok ((left, right, fields), rest)) :
    (runScore format verbose paths ns inputs).failure = none ∧
      (runScore format verbose paths ns inputs).stdout =
        (set.execute left right fields).report format paths := by
  have run : runScore format verbose paths ns inputs = _ :=
    (finish_of_ok rules _).trans (finish_of_ok subjects _)
  rw [run]
  exact ⟨rfl, rfl⟩

theorem runCheck_of_read {format : Format} {verbose : Bool} {path : String} {set : RuleSet}
    (rules : loadRules path inputs = .ok (set, rest)) :
    (runCheck format verbose path inputs).failure = none ∧
      (runCheck format verbose path inputs).stdout = set.report format verbose path := by
  rw [runCheck, finish_of_ok rules]
  exact ⟨rfl, rfl⟩

/-! ## Files with one rule -/

/-- The expression for the subject itself. -/
def itself : Expression := ⟨"_", ["_"], .identifier "_"⟩

theorem compile_itself :
    Expression.compile Expression.subjectName [Expression.subjectName] = .ok itself := by
  cbv

/-- A rule that says no more than its category and its criterion. -/
def bareRule (category criteria : String) : CompiledRule where
  category := category
  criteria := criteria
  extract := fun subject ns => itself.eval [subject] ns
  against := fun subject ns => itself.eval [subject] ns
  scorer := .constant

theorem compile_bareRule (category criteria : String) :
    Rule.compile { category, criteria } = .ok (bareRule category criteria) := by
  simp only [Rule.compile, Rule.compileExtractor, Option.getD_none, compile_itself]
  rfl

/-- A file with rules, and the number one in every other file. -/
def filesWith (rules : String) : Inputs where
  file := fun path => .ok (if path = "rules.json" then rules else "1")
  stdin := ""

def filePaths : ScoredPaths := ⟨"rules.json", "left.json", "right.json"⟩

theorem loadRules_filesWith {rules category criteria : String}
    (read : RuleSet.readRules rules = .ok [{ category, criteria }]) :
    loadRules "rules.json" (filesWith rules) =
      .ok (⟨[bareRule category criteria]⟩, filesWith rules) := by
  have loaded : RuleSet.ofJson rules = .ok ⟨[bareRule category criteria]⟩ := by
    rw [RuleSet.ofJson, read]
    exact RuleSet.ofRules_eq_ok_iff.mpr
      ⟨by simp [maxRules], by simp [compile_bareRule], by simp⟩
  simp [loadRules, filesWith, loaded]

theorem readSubjects_filesWith (rules : String) : readSubjects filePaths none (filesWith rules) =
    .ok ((.ofNat 1, .ofNat 1, {}), filesWith rules) := by
  have number : Json.readValue "1" = .ok (.ofNat 1) := by cbv
  have other (path : String) (file : path ≠ "-" ∧ path ≠ "rules.json") :
      readJson path (filesWith rules) = .ok (.ofNat 1, filesWith rules) := by
    have text : readText path (filesWith rules) = .ok ("1", filesWith rules) := by
      simp [readText, filesWith, file]
    change (readText path >>= _) _ = _
    simp only [bind, StateT.bind, Except.bind, text, number]
    rfl
  have left := other filePaths.left (by decide)
  have right := other filePaths.right (by decide)
  change (readJson filePaths.left >>= _) _ = _
  simp only [bind, StateT.bind, Except.bind, left, right]
  rfl

/-! ## What is printed -/

/-- What a scoring and a listing of rules print in columns has a line for the names of the columns,
one for each thing reported on and, for a scoring, one for the sums. It is a table of these lines
exactly if no text in it has a mark, and exactly then its rows can be read back. -/
theorem stdout_isTable_iff (verbose : Bool) (inputs : Inputs) :
    (∀ paths ns set between left right fields rest,
      loadRules paths.rules inputs = .ok (set, between) →
      readSubjects paths ns between = .ok ((left, right, fields), rest) →
      let x := set.execute left right fields
      let command : Command := .score paths.rules paths.left paths.right ns
      let outcome := Invocation.run { command, verbose, format := .tsv } inputs
      outcome.failure = none ∧
        (IsTable (x.details.length + 2) 4 outcome.stdout ↔ x.IsPlain) ∧
        (readTable outcome.stdout = x.rows ↔ x.IsPlain)) ∧
    ∀ path set rest, loadRules path inputs = .ok (set, rest) →
      let outcome := Invocation.run { command := .check path, verbose, format := .tsv } inputs
      outcome.failure = none ∧
        (IsTable (set.size + 1) 6 outcome.stdout ↔ set.IsPlain) ∧
        (readTable outcome.stdout = set.rows ↔ set.IsPlain) := by
  constructor
  · intro paths ns set between left right fields rest rules subjects x command outcome
    obtain ⟨done, printed⟩ := runScore_of_read paths rules subjects
    have text : outcome.stdout = unlines (x.rows.map columns) :=
      printed.trans (Execution.report_tsv x paths)
    have rectangle := x.isRectangle_rows
    rw [text, ← Execution.length_rows, ← Execution.arePlain_rows_iff]
    exact ⟨done, isTable_iff rectangle, readTable_eq_iff rectangle⟩
  · intro path set rest rules outcome
    obtain ⟨done, printed⟩ := runCheck_of_read rules
    have text : outcome.stdout = unlines (set.rows.map columns) :=
      printed.trans (RuleSet.report_tsv set verbose path)
    have rectangle := set.isRectangle_rows
    rw [text, ← RuleSet.length_rows, ← RuleSet.arePlain_rows_iff]
    exact ⟨done, isTable_iff rectangle, readTable_eq_iff rectangle⟩

/-- Spaces and letters of several bytes are no marks. -/
theorem stdout_isTable_iff_spaced :
    let inputs := filesWith "[[\"Maße\",\"arm length\"]]"
    let set : RuleSet := ⟨[bareRule "Maße" "arm length"]⟩
    let x := set.execute (.ofNat 1) (.ofNat 1) {}
    let score : Command := .score "rules.json" "left.json" "right.json" none
    loadRules "rules.json" inputs = .ok (set, inputs) ∧
      readSubjects filePaths none inputs = .ok ((.ofNat 1, .ofNat 1, {}), inputs) ∧
      IsTable (x.details.length + 2) 4
        (Invocation.run { command := score, format := .tsv } inputs).stdout ∧
      readTable (Invocation.run { command := .check "rules.json", format := .tsv } inputs).stdout =
        set.rows := by
  intro inputs set x score
  have rules : loadRules "rules.json" inputs = .ok (set, inputs) := loadRules_filesWith (by cbv)
  have subjects := readSubjects_filesWith "[[\"Maße\",\"arm length\"]]"
  have plain : x.IsPlain := by decide +kernel
  have plainSet : set.IsPlain := by decide +kernel
  obtain ⟨scorings, listings⟩ := stdout_isTable_iff false inputs
  exact ⟨rules, subjects,
    (scorings filePaths none _ _ _ _ _ _ rules subjects).2.1.mpr plain,
    (listings _ _ _ rules).2.2.mpr plainSet⟩

/-- A tab in a criterion makes a cell too many, in a scoring and in a listing. Where the tab stands
in the category instead, the same is printed for other rules. -/
theorem exists_stdout_not_isTable :
    let inputs := filesWith "[[\"c\",\"a\\tb\"]]"
    let others := filesWith "[[\"b\\tc\",\"a\"]]"
    let set : RuleSet := ⟨[bareRule "c" "a\tb"]⟩
    let other : RuleSet := ⟨[bareRule "b\tc" "a"]⟩
    let x := set.execute (.ofNat 1) (.ofNat 1) {}
    let score : Command := .score "rules.json" "left.json" "right.json" none
    let check : Invocation := { command := .check "rules.json", format := .tsv }
    loadRules "rules.json" inputs = .ok (set, inputs) ∧
      loadRules "rules.json" others = .ok (other, others) ∧
      readSubjects filePaths none inputs = .ok ((.ofNat 1, .ofNat 1, {}), inputs) ∧
      ¬ IsTable (x.details.length + 2) 4
        (Invocation.run { command := score, format := .tsv } inputs).stdout ∧
      ¬ IsTable (set.size + 1) 6 (check.run inputs).stdout ∧
      set.rows ≠ other.rows ∧ (check.run inputs).stdout = (check.run others).stdout := by
  intro inputs others set other x score check
  have rules : loadRules "rules.json" inputs = .ok (set, inputs) := loadRules_filesWith (by cbv)
  have otherRules : loadRules "rules.json" others = .ok (other, others) :=
    loadRules_filesWith (by cbv)
  have subjects := readSubjects_filesWith "[[\"c\",\"a\\tb\"]]"
  have scored : (Invocation.run { command := score, format := .tsv } inputs).stdout =
      unlines (x.rows.map columns) :=
    (runScore_of_read filePaths rules subjects).2.trans (x.report_tsv _)
  have listed : (check.run inputs).stdout = unlines (set.rows.map columns) :=
    (runCheck_of_read rules).2.trans (set.report_tsv _ _)
  have otherListed : (check.run others).stdout = unlines (other.rows.map columns) :=
    (runCheck_of_read otherRules).2.trans (other.report_tsv _ _)
  have marked : ¬ ArePlain x.rows := by
    rw [x.arePlain_rows_iff]
    decide +kernel
  have markedSet : ¬ ArePlain set.rows := by
    rw [set.arePlain_rows_iff]
    decide +kernel
  rw [scored, listed, otherListed, ← x.length_rows, ← set.length_rows,
    isTable_iff x.isRectangle_rows, isTable_iff set.isRectangle_rows]
  exact ⟨rules, otherRules, subjects, marked, markedSet, by decide +kernel, by decide +kernel⟩

end Semblance.Cli
