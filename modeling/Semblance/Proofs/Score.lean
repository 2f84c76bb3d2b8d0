import Semblance.Proofs.Value.Number
import Semblance.Score

/-!
# What answers score

Every answer of a scorer becomes a score of finite numbers with nothing negative to achieve. An answer
is a failure, or it is one of the shapes that the table of answers lists, or it is not recognized; the
score tells which of the three it was.
-/

namespace Semblance.Score

open Binary64

/-! ## Shapes of answers -/

/-- An answer that is no score: a text, a map, or a list that does not begin with a number or goes
on with something else than a number that is not negative. -/
inductive IsUnrecognized : Value → Prop where
  | string (text : String) : IsUnrecognized (.string text)
  | object (entries : List (String × Value)) : IsUnrecognized (.object entries)
  | achieved {first : Value} (rest : List Value) (noNumber : ∀ n, first ≠ .number n) :
      IsUnrecognized (.array (first :: rest))
  | possible (first : Value) {second : Value} (rest : List Value)
      (noSize : ∀ n, second = .number n → ¬ 0.0 ≤ n.toFloat) :
      IsUnrecognized (.array (first :: second :: rest))

/-- The errors that a value lists: none, several, or itself. -/
inductive Lists : Value → List String → Prop where
  | none : Lists .null []
  | several (reported : List Value) : Lists (.array reported) (reported.map Value.toText)
  | single {error : Value} (given : error.isNull = false) (lone : ∀ items, error ≠ .array items) :
      Lists error [error.toText]

/-- The table of answers, and what was achieved, what was possible and which errors are reported by
each. -/
inductive Answers : Value → Float → Float → List String → Prop where
  | null : Answers .null 0.0 1.0 []
  | bool (b : Bool) : Answers (.bool b) (if b then 1.0 else 0.0) 1.0 []
  | number (n : Number) : Answers (.number n) n.toFloat 1.0 []
  | nothing : Answers (.array []) 0.0 1.0 []
  | achieved (n : Number) : Answers (.array [.number n]) n.toFloat 1.0 []
  | possible (n : Number) {p : Number} (nonneg : 0.0 ≤ p.toFloat) :
      Answers (.array [.number n, .number p]) n.toFloat p.toFloat []
  | reported (n : Number) {p : Number} (nonneg : 0.0 ≤ p.toFloat) {errors : Value}
      {texts : List String} (lists : Lists errors texts) (ignored : List Value) :
      Answers (.array (.number n :: .number p :: errors :: ignored)) n.toFloat p.toFloat texts

/-- The score of an answer of the table. -/
def reporting (achieved possible : Float) (texts : List String) : Score :=
  { achieved, possible, errors := texts.map .reported }

variable {value : Value} {achieved possible : Float} {texts : List String}

theorem Lists.reportedErrors_eq {error : Value} (lists : Lists error texts) (rest : List Value) :
    reportedErrors (error :: rest) = texts.map .reported := by
  cases lists with
  | none => rfl
  | several reported =>
      rw [reportedErrors, List.map_map]
      rfl
  | single given lone =>
      cases error with
      | null => cases given
      | array items => exact absurd rfl (lone items)
      | _ => rfl

theorem exists_lists (error : Value) : ∃ texts, Lists error texts := by
  cases error with
  | null => exact ⟨_, .none⟩
  | array items => exact ⟨_, .several items⟩
  | _ => exact ⟨_, .single rfl nofun⟩

theorem number?_eq_none (noNumber : ∀ n, value ≠ .number n) : number? value = none := by
  cases value with
  | number n => exact absurd rfl (noNumber n)
  | _ => rfl

theorem possibleOf?_number (p : Number) (rest : List Value) :
    possibleOf? (.number p :: rest) = if 0.0 ≤ p.toFloat then some p.toFloat else none := by
  simp [possibleOf?, number?, Option.filter]

theorem possibleOf?_eq_none (noSize : ∀ n, value = .number n → ¬ 0.0 ≤ n.toFloat)
    (rest : List Value) : possibleOf? (value :: rest) = none := by
  cases value with
  | number n => rw [possibleOf?_number, if_neg (noSize n rfl)]
  | _ => rfl

/-! ## Each shape -/

theorem IsUnrecognized.ofValue_eq (unrecognized : IsUnrecognized value) :
    ofValue value = badResult value := by
  cases unrecognized with
  | string text => rfl
  | object entries => rfl
  | achieved rest noNumber =>
      rw [ofValue, ofItems?, number?_eq_none noNumber]
      rfl
  | possible first rest noSize =>
      rw [ofValue, ofItems?, possibleOf?_eq_none noSize]
      cases number? first <;> rfl

theorem Answers.ofValue_eq (answers : Answers value achieved possible texts) :
    ofValue value = reporting achieved possible texts := by
  cases answers with
  | possible n nonneg =>
      rw [ofValue, ofItems?, possibleOf?_number, if_pos nonneg]
      rfl
  | reported n nonneg lists ignored =>
      rw [ofValue, ofItems?, possibleOf?_number, if_pos nonneg, List.drop_one, List.tail_cons,
        lists.reportedErrors_eq]
      rfl
  | _ => rfl

/-- An answer that is recognized is in the table. -/
theorem exists_answers (recognized : ¬ IsUnrecognized value) :
    ∃ achieved possible texts, Answers value achieved possible texts := by
  cases value with
  | null => exact ⟨_, _, _, .null⟩
  | bool b => exact ⟨_, _, _, .bool b⟩
  | number n => exact ⟨_, _, _, .number n⟩
  | string text => exact absurd (.string text) recognized
  | object entries => exact absurd (.object entries) recognized
  | array items =>
      cases items with
      | nil => exact ⟨_, _, _, .nothing⟩
      | cons first rest =>
          obtain ⟨n, rfl⟩ : ∃ n, first = .number n := by
            by_contra noNumber
            exact recognized (.achieved rest (not_exists.mp noNumber))
          cases rest with
          | nil => exact ⟨_, _, _, .achieved n⟩
          | cons second rest =>
              obtain ⟨p, rfl, nonneg⟩ : ∃ p : Number, second = .number p ∧ 0.0 ≤ p.toFloat := by
                by_contra noSize
                refine recognized (.possible _ rest fun p same nonneg => ?_)
                exact noSize ⟨p, same, nonneg⟩
              cases rest with
              | nil => exact ⟨_, _, _, .possible n nonneg⟩
              | cons error ignored =>
                  obtain ⟨texts, lists⟩ := exists_lists error
                  exact ⟨_, _, _, .reported n nonneg lists ignored⟩

theorem Answers.isFinite (answers : Answers value achieved possible texts) :
    achieved.isFinite = true ∧ possible.isFinite = true := by
  cases answers with
  | null => exact ⟨isFinite_zero, isFinite_one⟩
  | bool b =>
      cases b with
      | false => exact ⟨isFinite_zero, isFinite_one⟩
      | true => exact ⟨isFinite_one, isFinite_one⟩
  | number n => exact ⟨isFinite_toFloat n, isFinite_one⟩
  | nothing => exact ⟨isFinite_zero, isFinite_one⟩
  | achieved n => exact ⟨isFinite_toFloat n, isFinite_one⟩
  | possible n nonneg => exact ⟨isFinite_toFloat n, isFinite_toFloat _⟩
  | reported n nonneg lists ignored => exact ⟨isFinite_toFloat n, isFinite_toFloat _⟩

theorem Answers.possible_nonneg (answers : Answers value achieved possible texts) :
    0.0 ≤ possible := by
  cases answers with
  | possible n nonneg => exact nonneg
  | reported n nonneg lists ignored => exact nonneg
  | _ => exact nonneg_one

/-- No answer makes less than nothing possible. -/
theorem ofResult_possible_nonneg (answer : Except EvalError Value) :
    0.0 ≤ (ofResult answer).possible := by
  cases answer with
  | error error => exact nonneg_one
  | ok value =>
      rw [ofResult]
      by_cases bad : IsUnrecognized value
      · rw [bad.ofValue_eq]
        exact nonneg_one
      · obtain ⟨_, _, _, answers⟩ := exists_answers bad
        rw [answers.ofValue_eq]
        exact answers.possible_nonneg

/-! ## Normal scores -/

/-- A score that is normal for an answer: its numbers are finite and nothing negative was to achieve,
and its errors tell whether the scorer failed, gave something that is no score, or gave a score. -/
structure IsNormal (answer : Except EvalError Value) (s : Score) : Prop where
  achieved_finite : s.achieved.isFinite = true
  possible_finite : s.possible.isFinite = true
  possible_nonneg : 0.0 ≤ s.possible
  thrown?_eq_some_iff : ∀ error, s.thrown? = some error ↔ answer = .error error
  eq_of_error : ∀ error, answer = .error error → s = ⟨0.0, 1.0, [.eval error]⟩
  errors_of_ok : ∀ value, answer = .ok value → ∀ error ∈ s.errors,
    (∃ text, error = .reported text) ∨ ∃ text, error = .badResult text
  badResult_iff : ∀ value, answer = .ok value →
    ((∃ text, .badResult text ∈ s.errors) ↔ IsUnrecognized value)
  eq_of_badResult : ∀ value text, answer = .ok value → .badResult text ∈ s.errors →
    text = Json.compact value ∧ s = ⟨0.0, 1.0, [.badResult text]⟩
  answers : ∀ value, answer = .ok value → ¬ IsUnrecognized value →
    ∃ texts, Answers value s.achieved s.possible texts ∧ s.errors = texts.map .reported

theorem isNormal_of_thrown (error : EvalError) :
    IsNormal (.error error) (failed (.eval error)) where
  achieved_finite := isFinite_zero
  possible_finite := isFinite_one
  possible_nonneg := nonneg_one
  thrown?_eq_some_iff e := by simp [thrown?, failed]
  eq_of_error := by
    rintro e same
    cases same
    rfl
  errors_of_ok := nofun
  badResult_iff := nofun
  eq_of_badResult := nofun
  answers := nofun

theorem isNormal_of_isUnrecognized (bad : IsUnrecognized value) :
    IsNormal (.ok value) (failed (.badResult (Json.compact value))) where
  achieved_finite := isFinite_zero
  possible_finite := isFinite_one
  possible_nonneg := nonneg_one
  thrown?_eq_some_iff e := iff_of_false nofun nofun
  eq_of_error := nofun
  errors_of_ok := by
    rintro _ - error mem
    exact .inr ⟨_, List.mem_singleton.mp mem⟩
  badResult_iff := by
    rintro _ same
    cases same
    exact iff_of_true ⟨_, List.mem_singleton_self _⟩ bad
  eq_of_badResult := by
    rintro _ text same mem
    cases same
    cases List.mem_singleton.mp mem
    exact ⟨rfl, rfl⟩
  answers := by
    rintro _ same recognized
    cases same
    exact absurd bad recognized

theorem isNormal_of_answers (recognized : ¬ IsUnrecognized value)
    (answers : Answers value achieved possible texts) :
    IsNormal (.ok value) (reporting achieved possible texts) := by
  have noBad (text : String) : .badResult text ∉ (reporting achieved possible texts).errors := by
    simp [reporting]
  have noThrown : (reporting achieved possible texts).thrown? = none := by
    simp [thrown?, reporting]
  exact {
    achieved_finite := answers.isFinite.1
    possible_finite := answers.isFinite.2
    possible_nonneg := answers.possible_nonneg
    thrown?_eq_some_iff := fun e => by simp [noThrown]
    eq_of_error := nofun
    errors_of_ok := by
      rintro _ - error mem
      obtain ⟨text, -, rfl⟩ := List.mem_map.mp mem
      exact .inl ⟨text, rfl⟩
    badResult_iff := by
      rintro _ same
      cases same
      exact iff_of_false (fun ⟨text, mem⟩ => noBad text mem) recognized
    eq_of_badResult := fun _ text _ mem => absurd mem (noBad text)
    answers := by
      rintro _ same -
      cases same
      exact ⟨texts, answers, rfl⟩ }

/-- Whatever a scorer answers, its score is a normal one. -/
theorem isNormal_ofResult (answer : Except EvalError Value) :
    IsNormal answer (ofResult answer) := by
  cases answer with
  | error error => exact isNormal_of_thrown error
  | ok value =>
      rw [ofResult]
      by_cases bad : IsUnrecognized value
      · rw [bad.ofValue_eq]
        exact isNormal_of_isUnrecognized bad
      · obtain ⟨achieved, possible, texts, answers⟩ := exists_answers bad
        rw [answers.ofValue_eq]
        exact isNormal_of_answers bad answers

/-! ## Computed numbers -/

/-- A computed number is achieved out of one, and what is no number is nothing. -/
theorem ofResult_ofFloat (x : Float) :
    ofResult (.ok (.ofFloat x)) = if x.isFinite then { achieved := x } else {} := by
  by_cases finite : x.isFinite = true
  · obtain ⟨n, held⟩ := Value.exists_ofFloat_eq_number finite
    rw [if_pos finite, held, ← Value.toFloat_of_ofFloat_eq_number held]
    rfl
  · rw [if_neg finite, Value.ofFloat_eq_null (Bool.not_eq_true _ ▸ finite)]
    rfl

end Semblance.Score
