import Semblance.Confidence
import Semblance.Rule

/-!
# Running rules

Each rule takes a value from each subject and scores the pair. The weighted scores add up to a
score and a total, whose ratio is the similarity of the subjects. A rule that fails is recorded and
counts as nothing achieved; it does not stop the others.
-/

namespace Semblance

/-- What a rule has come to. -/
inductive RuleDetail where
  | scored (achieved possible : Float)
  | failed (message : String)

/-- What one rule does with two subjects. -/
inductive RuleOutcome where
  /-- One of the values is null, so there is nothing to compare. -/
  | skipped
  | failed (error : EvalError)
  /-- A weighted score, whether it counts towards the sums, and errors met on the way. -/
  | scored (achieved possible : Float) (counts : Bool) (errors : List ScoreError)

namespace CompiledRule

/-- A weighted score that is too large to be counted. -/
def overflowError (r : CompiledRule) (score : Score) : ScoreError :=
  let number := Notation.plain.write
  .badResult
    s!"[{number score.achieved}, {number score.possible}] weighted by {number r.strength}"

/-- Weigh a score by the strength of its rule. -/
def weigh (r : CompiledRule) (score : Score) : RuleOutcome :=
  match score.thrown? with
  | some error => .failed error
  | none =>
      let achieved := score.achieved * r.strength
      let possible := score.possible * r.strength
      if achieved.isFinite && possible.isFinite then
        .scored achieved possible (score.possible > 0.0) score.errors
      -- The rule still counts in full towards what was possible.
      else .scored 0.0 r.strength true (score.errors ++ [r.overflowError score])

def outcome (r : CompiledRule) (left right : Value) (ns : Namespace) : RuleOutcome :=
  match r.extract left ns with
  | .error error => .failed error
  | .ok l =>
      match r.against right ns with
      | .error error => .failed error
      | .ok v => if l.isNull || v.isNull then .skipped else r.weigh (r.scorer.score l v ns)

end CompiledRule

/-- The sums over all rules, the errors in the order of the rules, and what each rule has come to,
by criterion. -/
structure Execution where
  score : Float := 0.0
  total : Float := 0.0
  errors : List ScoreError := []
  details : List (String × RuleDetail) := []

namespace Execution

def record (x : Execution) (r : CompiledRule) : RuleOutcome → Execution
  | .skipped => x
  | .failed error =>
      { x with
        total := x.total + r.strength
        errors := x.errors ++ [.eval error]
        details := Entries.insert r.criteria (.failed error.message) x.details }
  | .scored achieved possible counts errors =>
      { score := if counts then x.score + achieved else x.score
        total := if counts then x.total + possible else x.total
        errors := x.errors ++ errors
        details := Entries.insert r.criteria (.scored achieved possible) x.details }

/-- The part of what was possible that was achieved. There is none if no rule could compare the
subjects, or if the ratio is not finite. -/
def similarity? (x : Execution) : Option Float :=
  let ratio := x.score / x.total
  if x.total > 0.0 && ratio.isFinite then some ratio else none

def confidence? (x : Execution) : Option Confidence := x.similarity?.map .ofScore

def detailValue : RuleDetail → Value
  | .scored achieved possible => .array [.float achieved, .float possible]
  | .failed message => .string message

def detailsValue (x : Execution) : Value :=
  .object (x.details.map fun d => (d.1, detailValue d.2))

def errorsValue (x : Execution) : Value :=
  .array (x.errors.map fun error => .string error.message)

end Execution

/-- Run rules in order on two subjects. -/
def execute (rules : List CompiledRule) (left right : Value) (ns : Namespace) : Execution :=
  rules.foldl (fun x r => x.record r (r.outcome left right ns)) {}

end Semblance
