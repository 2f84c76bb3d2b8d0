/-!
# Limits

Patterns, expressions and rule sets may come from files that nobody has checked. These limits bound
the work that one of them can cause.
-/

namespace Semblance

/-- How deep a pattern may nest. -/
def maxPatternDepth : Nat := 64

/-- How many bytes an expression may have. -/
def maxExpressionLength : Nat := 4096

/-- How deep an expression may nest. -/
def maxExpressionDepth : Nat := 64

/-- How many rules a rule set may have. -/
def maxRules : Nat := 10000

/-- A limit that was exceeded, with the measure that exceeded it. -/
inductive LimitError where
  | patternDepth (depth : Nat)
  | expressionLength (bytes : Nat)
  | expressionDepth
  | ruleCount (count : Nat)
  deriving DecidableEq, Repr

namespace LimitError

def message : LimitError → String
  | patternDepth depth =>
      s!"Pattern nesting depth {depth} exceeds maximum of {maxPatternDepth}"
  | expressionLength bytes =>
      s!"Expression length {bytes} exceeds maximum of {maxExpressionLength} bytes"
  | expressionDepth => s!"Expression nesting exceeds maximum depth of {maxExpressionDepth}"
  | ruleCount count => s!"Too many rules: {count} exceeds maximum of {maxRules}"

end LimitError

def checkPatternDepth (depth : Nat) : Except LimitError Unit :=
  if maxPatternDepth < depth then .error (.patternDepth depth) else .ok ()

def checkExpressionLength (source : String) : Except LimitError Unit :=
  if maxExpressionLength < source.utf8ByteSize then .error (.expressionLength source.utf8ByteSize)
  else .ok ()

def checkRuleCount (count : Nat) : Except LimitError Unit :=
  if maxRules < count then .error (.ruleCount count) else .ok ()

end Semblance
