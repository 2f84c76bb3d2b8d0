import Semblance.Cli.Report
import Semblance.Proofs.Cli.Table
import Semblance.Proofs.Rule.RangeDisplay

/-!
# What is printed in columns

The reports on a scoring and on a rule set have one row for each thing that they report on, below
a row with the names of the columns. Numbers and indexes never have a mark in them. What the rules
say, and what is said about errors, is printed as it is; so only these texts decide whether all
cells are plain.
-/

namespace Semblance

namespace Cli

open Text

variable {s : String} {cs : List Char}

/-! ## Cells without marks -/

/-- The class has neither of the marks. -/
structure Unmarked (p : Char → Bool) : Prop where
  tab : p '\t' = false
  feed : p '\n' = false

theorem isPlain_of_forall {p : Char → Bool} (unmarked : Unmarked p)
    (all : ∀ c ∈ s.toList, p c = true) : IsPlain s := by
  refine ⟨fun mem => ?_, fun mem => ?_⟩
  · exact absurd (all _ mem) (by rw [unmarked.tab]; nofun)
  · exact absurd (all _ mem) (by rw [unmarked.feed]; nofun)

theorem isPlain_append {t : String} (first : IsPlain s) (second : IsPlain t) : IsPlain (s ++ t) := by
  simp only [IsPlain, String.toList_append, List.mem_append, not_or]
  exact ⟨⟨first.1, second.1⟩, first.2, second.2⟩

theorem isPlain_write (x : Float) : IsPlain (Notation.plain.write x) :=
  ⟨RangeSpec.not_mem_write (by decide) (by decide) x,
    RangeSpec.not_mem_write (by decide) (by decide) x⟩

/-- The characters of numbers with a fixed count of places. -/
def isFixedChar (c : Char) : Bool := isAsciiDigit c || "-.NaNinf".toList.contains c

theorem isFixedChar_of_mem_toDigits {n : Nat} : ∀ c ∈ Nat.toDigits 10 n, isFixedChar c = true := by
  intro c mem
  have digit : isAsciiDigit c = true := (Decimal.isNumeral_digits ⟨n, 0⟩).2 c mem
  rw [isFixedChar, digit, Bool.true_or]

theorem isFixedChar_of_mem_signed {sign : Float.Model.UnpackedFloat.Sign}
    (all : ∀ c ∈ cs, isFixedChar c = true) :
    ∀ c ∈ (Notation.signed sign cs).toList, isFixedChar c = true := by
  cases sign with
  | positive => rwa [Notation.signed, String.toList_ofList]
  | negative =>
      rw [Notation.signed, String.toList_ofList, List.forall_mem_cons]
      exact ⟨by decide, all⟩

theorem isPlain_writeFixed (places : Nat) (x : Float) : IsPlain (writeFixed places x) := by
  refine isPlain_of_forall (p := isFixedChar) ⟨by decide, by decide⟩ ?_
  unfold writeFixed
  extract_lets body
  have digits (units : Nat) : ∀ c ∈ body units, isFixedChar c = true := by
    have padded : ∀ c ∈ List.replicate (places + 1 - (Nat.toDigits 10 units).length) '0' ++
        Nat.toDigits 10 units, isFixedChar c = true := by
      refine List.forall_mem_append.mpr ⟨fun c mem => ?_, isFixedChar_of_mem_toDigits⟩
      rw [List.eq_of_mem_replicate mem]
      decide
    dsimp only [body]
    split
    · exact padded
    · rw [List.forall_mem_append, List.forall_mem_cons]
      exact ⟨fun c mem => padded c (List.mem_of_mem_take mem), by decide,
        fun c mem => padded c (List.mem_of_mem_drop mem)⟩
  split
  · exact List.all_eq_true.mp (by decide)
  · exact isFixedChar_of_mem_signed (List.all_eq_true.mp (by decide))
  · exact isFixedChar_of_mem_signed (digits 0)
  · exact isFixedChar_of_mem_signed (digits _)

theorem isPlain_toString (n : Nat) : IsPlain (toString n) := by
  refine isPlain_of_forall (p := isFixedChar) ⟨by decide, by decide⟩ ?_
  rw [Nat.toString_eq_ofList_toDigits, String.toList_ofList]
  exact isFixedChar_of_mem_toDigits

theorem isPlain_toText (spec : RangeSpec) : IsPlain spec.toText := by
  have name : IsPlain spec.kind.name := by cases spec.kind <;> exact ⟨by decide, by decide⟩
  have colon : IsPlain ":" := ⟨by decide, by decide⟩
  have semicolon : IsPlain ";" := ⟨by decide, by decide⟩
  exact isPlain_append (isPlain_append (isPlain_append (isPlain_append (isPlain_append
    (isPlain_append name colon) (isPlain_write _)) semicolon) (isPlain_write _)) semicolon)
    (isPlain_write _)

end Cli

open Cli

/-! ## Scorings -/

namespace Execution

def detailCells (criteria : String) : RuleDetail → List String
  | .scored achieved possible => [criteria, writeFixed 4 achieved, writeFixed 4 possible, ""]
  | .failed message => [criteria, "", "", message]

/-- The names of the columns, what each rule has come to, and the sums. -/
def rows (x : Execution) : List (List String) :=
  ["criteria", "achieved", "possible", "error"] ::
    x.details.map (fun d => detailCells d.1 d.2) ++
      [detailCells "total" (.scored x.score x.total)]

/-- Neither a criterion nor a message has a mark in it. -/
def IsPlain (x : Execution) : Prop :=
  ∀ d ∈ x.details, Cli.IsPlain d.1 ∧ ∀ message, d.2 = .failed message → Cli.IsPlain message

variable (x : Execution)

theorem tsvLine_eq (criteria : String) (detail : RuleDetail) :
    tsvLine criteria detail = columns (detailCells criteria detail) := by
  cases detail <;> rfl

theorem report_tsv (paths : ScoredPaths) : x.report .tsv paths = unlines (x.rows.map columns) := by
  simp [report, rows, tsvLine_eq, Function.comp_def]

theorem length_rows : x.rows.length = x.details.length + 2 := by
  simp [rows]

theorem isRectangle_rows : IsRectangle 4 x.rows where
  nonempty := by simp [rows]
  pos := by decide
  width := by
    have four (criteria : String) (detail : RuleDetail) :
        (detailCells criteria detail).length = 4 := by cases detail <;> rfl
    rw [rows, List.cons_append, List.forall_mem_cons, List.forall_mem_append, List.forall_mem_map,
      List.forall_mem_singleton]
    exact ⟨rfl, fun d _ => four d.1 d.2, four _ _⟩

theorem forall_mem_detailCells_iff {criteria : String} {detail : RuleDetail} :
    (∀ cell ∈ detailCells criteria detail, Cli.IsPlain cell) ↔
      Cli.IsPlain criteria ∧ ∀ message, detail = .failed message → Cli.IsPlain message := by
  have empty : Cli.IsPlain "" := ⟨by decide, by decide⟩
  cases detail with
  | scored achieved possible => simp [detailCells, isPlain_writeFixed, empty]
  | failed message => simp [detailCells, empty]

theorem arePlain_rows_iff : ArePlain x.rows ↔ x.IsPlain := by
  have names : ∀ cell ∈ ["criteria", "achieved", "possible", "error"], Cli.IsPlain cell := by
    decide
  have total : Cli.IsPlain "total" := by decide
  rw [rows, List.cons_append, arePlain_cons_iff, ArePlain, List.forall_mem_append,
    List.forall_mem_map, List.forall_mem_singleton]
  simp only [forall_mem_detailCells_iff]
  exact ⟨fun plain => plain.2.1, fun plain => ⟨names, plain, total, nofun⟩⟩

instance : Decidable x.IsPlain :=
  decidable_of_iff (∀ row ∈ x.rows, ∀ cell ∈ row, Cli.IsPlain cell) x.arePlain_rows_iff

end Execution

/-! ## Listings of rules -/

namespace CompiledRule

/-- The cells of a rule at a place. -/
def cells (index : Nat) (rule : CompiledRule) : List String :=
  [toString index, rule.criteria, rule.category, rule.context,
    Notation.plain.write rule.strength, rule.scorer.toText]

/-- None of the texts that are said in the rule has a mark in it. -/
structure IsPlain (rule : CompiledRule) : Prop where
  criteria : Cli.IsPlain rule.criteria
  category : Cli.IsPlain rule.category
  context : Cli.IsPlain rule.context
  scorer : ∀ e, rule.scorer = .expression e → Cli.IsPlain e.source

/-- Of the texts of scorers only the source of an expression may have marks. -/
theorem isPlain_toText_iff (scorer : Scorer) :
    Cli.IsPlain scorer.toText ↔ ∀ e, scorer = .expression e → Cli.IsPlain e.source := by
  cases scorer with
  | range spec => exact iff_of_true (isPlain_toText spec) nofun
  | expression e => simp [Scorer.toText]
  | constant => exact iff_of_true (by decide : Cli.IsPlain "0") nofun
  | custom compare => exact iff_of_true (by decide : Cli.IsPlain "<custom>") nofun
  | scored compare => exact iff_of_true (by decide : Cli.IsPlain "<custom>") nofun

theorem forall_mem_cells_iff (index : Nat) (rule : CompiledRule) :
    (∀ cell ∈ rule.cells index, Cli.IsPlain cell) ↔ rule.IsPlain := by
  simp only [cells, List.forall_mem_cons, isPlain_toString, isPlain_write, isPlain_toText_iff,
    true_and]
  exact ⟨fun ⟨criteria, category, context, scorer, _⟩ => ⟨criteria, category, context, scorer⟩,
    fun plain => ⟨plain.criteria, plain.category, plain.context, plain.scorer, nofun⟩⟩

end CompiledRule

namespace RuleSet

/-- The names of the columns, and the rules in their order. -/
def rows (set : RuleSet) : List (List String) :=
  ["index", "criteria", "category", "context", "strength", "scorer"] ::
    set.rules.mapIdx CompiledRule.cells

def IsPlain (set : RuleSet) : Prop := ∀ rule ∈ set.rules, rule.IsPlain

variable (set : RuleSet)

theorem report_tsv (verbose : Bool) (path : String) :
    set.report .tsv verbose path = unlines (set.rows.map columns) := by
  rw [report, rows, List.map_cons, List.mapIdx_eq_zipIdx_map, List.mapIdx_eq_zipIdx_map,
    List.map_map]
  rfl

theorem length_rows : set.rows.length = set.size + 1 := by
  simp [rows, size]

theorem isRectangle_rows : IsRectangle 6 set.rows where
  nonempty := by simp [rows]
  pos := by decide
  width := by
    simp only [rows, List.forall_mem_cons, List.mem_mapIdx]
    refine ⟨rfl, ?_⟩
    rintro row ⟨index, below, rfl⟩
    rfl

theorem arePlain_rows_iff : ArePlain set.rows ↔ set.IsPlain := by
  have names : ∀ cell ∈ ["index", "criteria", "category", "context", "strength", "scorer"],
      Cli.IsPlain cell := by decide
  have each : ArePlain (set.rules.mapIdx CompiledRule.cells) ↔ set.IsPlain := by
    simp only [ArePlain, IsPlain, List.forall_mem_iff_getElem, List.getElem_mapIdx,
      List.length_mapIdx]
    simp only [← List.forall_mem_iff_getElem, CompiledRule.forall_mem_cells_iff]
  rw [rows, arePlain_cons_iff, each]
  exact and_iff_right names

instance : Decidable set.IsPlain :=
  decidable_of_iff (∀ row ∈ set.rows, ∀ cell ∈ row, Cli.IsPlain cell) set.arePlain_rows_iff

end RuleSet

end Semblance
