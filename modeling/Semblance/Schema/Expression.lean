import Semblance.Expr.Eval
import Semblance.Knowledge

/-!
# Expressions as patterns

The schema `expr` makes a predicate of an expression: the value that is tested is bound to `_`, and
the entries of a map can also be named on their own.
-/

namespace Semblance

namespace Expression

/-- The parameter that stands for the value under test. -/
def subjectName : String := "_"

/-- The bindings that a value lends to an expression about it. -/
def localsOf : Value → List (String × Value)
  | .object entries => entries
  | _ => []

/-- Evaluate an expression about one value. -/
def evalSubject (e : Expression) (subject : Value) (ns : Namespace) : Except EvalError Value :=
  e.evalWithLocals [subject] (localsOf subject) ns

/-- An expression as a test; a value on which it fails is not accepted. -/
def tester (e : Expression) (ns : Namespace) : Tester where
  description := s!"ExpressionTester({Text.quoted e.source})"
  accepts subject :=
    match e.evalSubject subject ns with
    | .ok result => result.truthy
    | .error _ => false

end Expression

namespace Schema

/-- An expression over the value under test. One that does not compile never matches. -/
def expression (ns : Namespace) : StringSchema := fun _ body =>
  match Expression.compile body [Expression.subjectName] with
  | .ok e => .ok (.custom (e.tester ns))
  | .error _ => .ok .never

end Schema

namespace Knowledge

/-- The registry with expressions as patterns, which may use what a namespace holds. -/
def withExpressions (ns : Namespace) : Knowledge :=
  empty.registerString "expr" (Schema.expression ns)

end Knowledge

end Semblance
