import Semblance.Expr.Scope
import Semblance.Json.Writer

/-!
# Scores

A scorer may answer with a number, a boolean, nothing, or a list of what was achieved, what was
possible and which errors it met. `Score.ofResult` turns every answer into a score.
-/

namespace Semblance

/-- An error that goes with a score. -/
inductive ScoreError where
  | eval (error : EvalError)
  | badResult (text : String)
  | reported (text : String)
  deriving DecidableEq, Repr

namespace ScoreError

def message : ScoreError → String
  | eval error => error.message
  | badResult text => s!"Scorer returned an unrecognized result: {text}"
  | reported text => text

end ScoreError

structure Score where
  achieved : Float := 0.0
  possible : Float := 1.0
  errors : List ScoreError := []

namespace Score

/-- Nothing out of one, because of an error. -/
def failed (error : ScoreError) : Score := { errors := [error] }

/-- The evaluation error of the scorer itself, if it failed. -/
def thrown? (s : Score) : Option EvalError :=
  s.errors.findSome? fun
    | .eval error => some error
    | _ => none

/-- The number of a value that is one. -/
def number? : Value → Option Float
  | .number n => some n.toFloat
  | _ => none

/-- What can be achieved is one, if the list does not say, and never negative. -/
def possibleOf? : List Value → Option Float
  | [] => some 1.0
  | value :: _ => (number? value).filter (· ≥ 0.0)

def reportedErrors : List Value → List ScoreError
  | [] | .null :: _ => []
  | .array reported :: _ => reported.map fun v => .reported v.toText
  | other :: _ => [.reported other.toText]

/-- A list of what was achieved, what was possible and errors. Missing items take their defaults,
and further ones are ignored. -/
def ofItems? : List Value → Option Score
  | [] => some {}
  | first :: rest => do
      let achieved ← number? first
      let possible ← possibleOf? rest
      return { achieved, possible, errors := reportedErrors (rest.drop 1) }

def badResult (value : Value) : Score := failed (.badResult (Json.compact value))

def ofValue : Value → Score
  | .null => {}
  | .bool b => { achieved := if b then 1.0 else 0.0 }
  | .number n => { achieved := n.toFloat }
  | .array items => (ofItems? items).getD (badResult (.array items))
  | value => badResult value

/-- The score for what a scorer answers. -/
def ofResult : Except EvalError Value → Score
  | .ok value => ofValue value
  | .error error => failed (.eval error)

end Score

end Semblance
