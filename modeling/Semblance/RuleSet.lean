import Std.Data.HashMap
import Semblance.Execution
import Semblance.Json.Reader
import Semblance.Limits
import Semblance.Rule.Document

/-!
# Rule sets

An ordered collection of compiled rules, each with a criterion of its own. A text holds a rule set
as a list of rules or as an object whose field `rules` is such a list.
-/

namespace Semblance

/-- Why a text holds no list of rules. -/
inductive RuleTextFault where
  /-- The text ends too early. -/
  | cutOff
  | malformed
  /-- The text is well formed but holds something else. -/
  | otherShape
  deriving DecidableEq, Repr

inductive RuleSetError where
  | unreadable (reason : String)
  | text (fault : RuleTextFault)
  | invalidRule (index : Nat) (criteria : String) (error : RuleError)
  | duplicateCriteria (index first : Nat) (criteria : String)
  | limit (error : LimitError)

namespace RuleTextFault

def reason : RuleTextFault → String
  | cutOff => "unexpected end of text"
  | malformed => "malformed text"
  | otherShape => "neither a list of rules nor an object with a list of rules"

end RuleTextFault

namespace RuleSetError

def message : RuleSetError → String
  | unreadable reason => s!"Failed to read rule set: {reason}"
  | text fault => s!"Failed to parse rule set: {fault.reason}"
  | invalidRule index criteria error => s!"Rule {index} ('{criteria}'): {error.message}"
  | duplicateCriteria index first criteria =>
      s!"Rule {index}: criteria '{criteria}' is already used by rule {first}"
  | limit error => error.message

end RuleSetError

structure RuleSet where
  rules : List CompiledRule := []

namespace RuleSet

def size (s : RuleSet) : Nat := s.rules.length

def isEmpty (s : RuleSet) : Bool := s.rules.isEmpty

/-- Compile rules in order; `first` holds the place of every criterion before them. -/
def compileFrom (first : Std.HashMap String Nat) (index : Nat) :
    List Rule → Except RuleSetError (List CompiledRule)
  | [] => .ok []
  | rule :: rest =>
      match first[rule.criteria]? with
      | some place => .error (.duplicateCriteria index place rule.criteria)
      | none =>
          match rule.compile with
          | .error error => .error (.invalidRule index rule.criteria error)
          | .ok compiled => do
              let others ← compileFrom (first.insert rule.criteria index) (index + 1) rest
              return compiled :: others

/-- Compile a list of rules, if there are not too many. -/
def ofRules (rules : List Rule) : Except RuleSetError RuleSet :=
  match checkRuleCount rules.length with
  | .error error => .error (.limit error)
  | .ok () => do return { rules := ← compileFrom ∅ 0 rules }

/-- Append a rule, unless its criterion is there already. -/
def push (s : RuleSet) (rule : CompiledRule) : Except RuleSetError RuleSet :=
  match s.rules.findIdx? (·.criteria = rule.criteria) with
  | some first => .error (.duplicateCriteria s.size first rule.criteria)
  | none => .ok { rules := s.rules ++ [rule] }

/-- The rules that a document lists. -/
def rulesOf? : Json.Document → Option (List Rule)
  | .array items => items.mapM Rule.ofDocument?
  | .object members => do
      match ← Rule.field? "rules" members with
      | some (.array items) => items.mapM Rule.ofDocument?
      | _ => none
  | _ => none

/-- The rules that a text lists. What follows the list is looked at only if the list is one. -/
def readRules (text : String) : Except RuleTextFault (List Rule) :=
  match Json.readPrefix Json.maxDepth text.toList with
  | .error .cutOff => .error .cutOff
  | .error .malformed => .error .malformed
  | .ok (document, rest) =>
      -- A document of another shape is reported even if something follows it.
      match rulesOf? document with
      | none => .error .otherShape
      | some rules => if Json.atEnd rest then .ok rules else .error .malformed

def ofJson (text : String) : Except RuleSetError RuleSet :=
  match readRules text with
  | .error fault => .error (.text fault)
  | .ok rules => ofRules rules

def execute (s : RuleSet) (left right : Value) (ns : Namespace) : Execution :=
  Semblance.execute s.rules left right ns

end RuleSet

end Semblance
