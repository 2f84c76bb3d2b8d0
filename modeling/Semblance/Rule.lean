import Semblance.RangeSpec
import Semblance.Schema.Expression
import Semblance.Score

/-!
# Rules

A rule names a criterion and says how to compare two subjects by it: one expression takes a value
from the left subject, one from the right, and a scorer compares the two values. The scorer is a
range spec or an expression over `l` and `r`.
-/

namespace Semblance

/-- A rule as it is written down. -/
structure Rule where
  category : String := ""
  criteria : String
  context : String := ""
  strength : Option Float := none
  extractor : Option String := none
  against : Option String := none
  scorer : Option String := none

/-- An expression of a rule that does not compile. -/
inductive RuleError where
  | extractor (source : String) (error : Expr.CompileError)
  | against (source : String) (error : Expr.CompileError)
  | scorer (source : String) (error : Expr.CompileError)

namespace RuleError

def message : RuleError → String
  | extractor source error => s!"Invalid extractor `{source}`: {error.message}"
  | against source error => s!"Invalid against `{source}`: {error.message}"
  | scorer source error => s!"Invalid scorer `{source}`: {error.message}"

end RuleError

/-- Takes the value that a rule compares from a subject. -/
abbrev Extractor := Value → Namespace → Except EvalError Value

/-- Compares two extracted values. -/
inductive Scorer where
  | range (spec : RangeSpec)
  | expression (e : Expression)
  | constant
  | custom (compare : Value → Value → Namespace → Except EvalError Value)
  /-- A comparison that gives its score itself, whatever that is. -/
  | scored (compare : Value → Value → Namespace → Score)

namespace Scorer

/-- The parameters of a scorer's expression. -/
def params : List String := ["l", "r"]

/-- The numeric reading of an operand of a range spec, which has to be a number. -/
def operand (value : Value) : Except EvalError Float :=
  let x := value.toNumber
  if x.isNaN then .error (.notANumber value.kindName) else .ok x

/-- What a range spec answers for two values. -/
def compareNumbers (spec : RangeSpec) (left right : Value) : Except EvalError Value := do
  let l ← operand left
  let r ← operand right
  return .ofFloat (spec.score l r)

/-- Score two values. Every answer but a score is turned into one. -/
def score (s : Scorer) (left right : Value) (ns : Namespace) : Score :=
  match s with
  | range spec => .ofResult (compareNumbers spec left right)
  | expression e => .ofResult (e.eval [left, right] ns)
  | constant => .ofResult (.ok .zero)
  | custom compare => .ofResult (compare left right ns)
  | scored compare => compare left right ns

/-- Compile a scorer. A text that is a range spec is not read as an expression. -/
def compile : Option String → Except Expr.CompileError Scorer
  | none => .ok constant
  | some source =>
      match RangeSpec.parse? source with
      | some spec => .ok (range spec)
      | none => do return expression (← Expression.compile source params)

def toText : Scorer → String
  | range spec => spec.toText
  | expression e => e.source
  | constant => "0"
  | custom _ | scored _ => "<custom>"

def dump : Scorer → String
  | range spec => s!"Range({spec.dump})"
  | expression e => Dump.record "Expression" [("source", Text.quoted e.source)]
  | constant => "Constant"
  | custom _ | scored _ => "Custom"

/-- A scorer as a value, for reports. -/
def toValue : Scorer → Value
  | range spec => .object [
      ("kind", .string spec.kind.name),
      ("max", .float spec.max),
      ("min", .float spec.min),
      ("reference", .float spec.reference),
      ("type", .string "range")]
  | expression e => .object [("source", .string e.source), ("type", .string "expression")]
  | constant => .object [("type", .string "constant")]
  | custom _ | scored _ => .object [("type", .string "custom")]

end Scorer

/-- The weight of a rule: at least one, and one if nothing is said. -/
def effectiveStrength : Option Float → Float
  | none => 1.0
  | some strength => if strength > 1.0 then strength else 1.0

/-- A rule that is ready to be run. -/
structure CompiledRule where
  category : String := ""
  criteria : String
  context : String := ""
  strength : Float := 1.0
  extract : Extractor
  against : Extractor
  scorer : Scorer

namespace CompiledRule

def withStrength (r : CompiledRule) (strength : Float) : CompiledRule :=
  { r with strength := effectiveStrength (some strength) }

def dump (r : CompiledRule) : String :=
  Dump.openRecord "CompiledRule" [
    ("category", Text.quoted r.category),
    ("criteria", Text.quoted r.criteria),
    ("context", Text.quoted r.context),
    ("strength", Notation.dump.write r.strength),
    ("scorer_kind", r.scorer.dump)]

end CompiledRule

namespace Rule

def compileExtractor (source : String) : Except Expr.CompileError Extractor := do
  let e ← Expression.compile source [Expression.subjectName]
  return fun subject ns => e.eval [subject] ns

/-- Compile a rule. Without an extractor the subject itself is compared, without `against` the
right subject is treated like the left one, and without a scorer nothing is achieved. -/
def compile (r : Rule) : Except RuleError CompiledRule := do
  let source := r.extractor.getD Expression.subjectName
  let extract ← (compileExtractor source).mapError (.extractor source)
  let against ← match r.against with
    | none => .ok extract
    | some source => (compileExtractor source).mapError (.against source)
  let scorer ← (Scorer.compile r.scorer).mapError (.scorer (r.scorer.getD ""))
  return {
    category := r.category, criteria := r.criteria, context := r.context
    strength := effectiveStrength r.strength, extract, against, scorer }

end Rule

end Semblance
