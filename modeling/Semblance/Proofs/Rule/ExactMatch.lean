import Semblance.Proofs.Closeness
import Semblance.Proofs.Rule.RangeText
import Semblance.Proofs.Score
import Semblance.Rule

/-!
# Exact matches

Comparators find out that two numbers are equal by their distance. Equal finite numbers have none, so
that a range spec gives them the full score, whatever the range is. Two equal infinite numbers have no
distance at all: their closeness is no number, and they score nothing.
-/

namespace Semblance

open Binary64 Float.Model Float.Model.UnpackedFloat

namespace RangeSpec

variable {s : RangeSpec} {l r : Float}

theorem score_of_beq (equal : l == r) (finite : l.isFinite = true) : s.score l r = 1.0 := by
  have line := Closeness.linear_of_beq s.min s.reference s.max equal finite
  rw [score]
  cases s.kind with
  | linear => exact line
  | gaussian => exact Closeness.gaussian_of_linear_eq_one line

theorem score_of_infinite (equal : l == r) (infinite : l.isFinite = false) :
    s.score l r = 0.0 / 0.0 := by
  have line := Closeness.linear_of_infinite s.min s.reference s.max equal infinite
  rw [score]
  cases s.kind with
  | linear => exact line
  | gaussian => exact Closeness.gaussian_of_linear_eq_notANumber line

end RangeSpec

/-! ## Scores -/

namespace Scorer

variable {l r : Value}

theorem operand_eq_ok (reads : l.toNumber.isNaN = false) : operand l = .ok l.toNumber :=
  if_neg (ne_true_of_eq_false reads)

theorem score_range_eq {spec : RangeSpec} (left : l.toNumber.isNaN = false)
    (right : r.toNumber.isNaN = false) (ns : Namespace) :
    (range spec).score l r ns = .ofResult (.ok (.ofFloat (spec.score l.toNumber r.toNumber))) := by
  rw [score, compareNumbers, operand_eq_ok left, operand_eq_ok right]
  rfl

/-- Values that read as equal numbers score one out of one by every range spec, if these are finite,
and nothing out of one otherwise. -/
theorem score_of_equal_numbers {text : String} {spec : RangeSpec}
    (parsed : RangeSpec.parse? text = some spec) (equal : l.toNumber == r.toNumber)
    (ns : Namespace) :
    ∃ s, compile (some text) = .ok s ∧
      (l.toNumber.isFinite = true → s.score l r ns = ⟨1.0, 1.0, []⟩) ∧
      (l.toNumber.isFinite = false → s.score l r ns = ⟨0.0, 1.0, []⟩) := by
  have left : l.toNumber.isNaN = false := isNaN_eq_false_of_beq equal
  have right : r.toNumber.isNaN = false := isNaN_eq_false_of_beq ((beq_comm _ _).trans equal)
  refine ⟨range spec, ?_, ?_, ?_⟩
  · rw [compile, parsed]
  · intro finite
    rw [score_range_eq left right, RangeSpec.score_of_beq equal finite, Score.ofResult_ofFloat,
      if_pos isFinite_one]
  · intro infinite
    rw [score_range_eq left right, RangeSpec.score_of_infinite equal infinite,
      Score.ofResult_ofFloat, if_neg (by decide +kernel)]

theorem parse?_ofKind (kind : RangeKind) :
    RangeSpec.parse? (kind.name ++ ":0;10;20") = some ⟨kind, 0.0, 10.0, 20.0⟩ := by
  have digits (cs : List Char) (nonempty : cs ≠ []) (ascii : cs.all Regex.isDecimalDigit = true) :
      RangeSpec.IsDecimal cs :=
    .whole (.plain ⟨nonempty, List.all_eq_true.mp ascii⟩)
  have word (cs : List Char) (lower : cs.all (fun c => 0x61 ≤ c.toNat && c.toNat ≤ 0x7A) = true) :
      ∀ c ∈ cs, Regex.isWordChar c = true := by
    intro c mem
    have bounds := List.all_eq_true.mp lower c mem
    simp only [Bool.and_eq_true, decide_eq_true_eq] at bounds
    rw [RangeSpec.isWordChar_of_ascii (by omega)]
    simp [CharRange.contains, bounds]
  have least : Decimal.readFloat ['0'] = some 0.0 := by decide +kernel
  have middle : Decimal.readFloat ['1', '0'] = some 10.0 := by decide +kernel
  have most : Decimal.readFloat ['2', '0'] = some 20.0 := by decide +kernel
  refine RangeSpec.parse?_eq_some_iff.mpr ⟨kind.name.toList, ['0'], ['1', '0'], ['2', '0'],
    ⟨?_, ?_, word _ ?_, digits _ (by decide) (by decide), digits _ (by decide) (by decide),
      digits _ (by decide) (by decide)⟩, least, middle, most, ?_⟩
  all_goals cases kind <;> decide +kernel

/-- A text and a list that read as the same finite number, and two texts for what is infinite. -/
theorem score_of_equal_numbers_written :
    let text := RangeKind.gaussian.name ++ ":0;10;20"
    let one := Value.number (.int 10 (by decide) (by decide))
    (Value.string " 1e1 ").toNumber == (Value.array [.array [one]]).toNumber ∧
      (Value.string "-inf").toNumber == (Value.string "-1e999").toNumber ∧
      ∃ s t, compile (some text) = .ok s ∧ compile (some text) = .ok t ∧
        s.score (.string " 1e1 ") (.array [.array [one]]) {} = ⟨1.0, 1.0, []⟩ ∧
        t.score (.string "-inf") (.string "-1e999") {} = ⟨0.0, 1.0, []⟩ := by
  intro text one
  have finite : (Value.string " 1e1 ").toNumber == (Value.array [.array [one]]).toNumber := by
    decide +kernel
  have infinite : (Value.string "-inf").toNumber == (Value.string "-1e999").toNumber := by
    decide +kernel
  obtain ⟨s, compiled, full, -⟩ := score_of_equal_numbers (parse?_ofKind .gaussian) finite {}
  obtain ⟨t, again, -, none⟩ := score_of_equal_numbers (parse?_ofKind .gaussian) infinite {}
  exact ⟨finite, infinite, s, t, compiled, again, full (by decide +kernel),
    none (by decide +kernel)⟩

/-- Not every exact match has the full score. -/
theorem exists_exact_match_without_score :
    ∃ (text : String) (spec : RangeSpec) (l r : Value) (ns : Namespace),
      RangeSpec.parse? text = some spec ∧ l.toNumber.isNaN = false ∧ r.toNumber.isNaN = false ∧
        l.toNumber == r.toNumber ∧ compile (some text) = .ok (range spec) ∧
        (range spec).score l r ns ≠ ⟨1.0, 1.0, []⟩ := by
  have equal : (Value.string "inf").toNumber == (Value.string "inf").toNumber := by
    decide +kernel
  have number : (Value.string "inf").toNumber.isNaN = false := by decide +kernel
  have parsed := parse?_ofKind .linear
  refine ⟨_, _, .string "inf", .string "inf", {}, parsed, number, number, equal, ?_, ?_⟩
  · rw [compile, parsed]
  · rw [score_range_eq number number, RangeSpec.score_of_infinite equal (by decide +kernel),
      Score.ofResult_ofFloat, if_neg (by decide +kernel)]
    intro same
    have achieved := congrArg Score.achieved same
    revert achieved
    decide +kernel

end Scorer

end Semblance
