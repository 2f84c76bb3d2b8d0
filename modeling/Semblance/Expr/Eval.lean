import Semblance.Expr.Builtins
import Semblance.Expr.Parser
import Semblance.Expr.Remainder

/-!
# Evaluation

An expression is evaluated in a scope. Logical operators and conditionals leave out what they do
not need; everything else is evaluated from left to right, and the first error ends it.
-/

namespace Semblance

namespace Value

/-- The position that a value reads as: a whole number, as a number or as text. -/
def toIndex? (property : Value) : Option Nat :=
  match property with
  | number _ | string _ =>
      let x := property.toNumber
      if 0.0 ≤ x && x < exactBound && Float.ofNat x.toUInt64.toNat == x then some x.toUInt64.toNat
      else none
  | _ => none

/-- The property asks for a length. -/
def isLengthName : Value → Bool
  | string name => name == "length"
  | _ => false

/-- The property of a value. Lists, texts and maps have a length; a map may have an entry under
that name. What is not there reads as null. -/
def member (subject property : Value) : Except EvalError Value :=
  match subject with
  | null => .error (.nullAccess property.toText)
  | object entries =>
      match entries.lookup property.toText with
      | some value => .ok value
      | none => .ok (if property.isLengthName then ofNat entries.length else null)
  | array items =>
      if property.isLengthName then .ok (ofNat items.length)
      else .ok ((property.toIndex?.bind fun i => items[i]?).getD null)
  | string s =>
      if property.isLengthName then .ok (ofNat s.length)
      else
        .ok <| match property.toIndex?.bind fun i => s.toList[i]? with
          | some c => string c.toString
          | none => null
  | bool _ | number _ => .ok null

/-- A sum with this operand joins texts. -/
def concatenates : Value → Bool
  | string _ | array _ | object _ => true
  | _ => false

/-- How two values order: texts by their characters, all else by its numeric reading. -/
def compare? : Value → Value → Option Ordering
  | string a, string b => some (compare a b)
  | a, b =>
      let x := a.toNumber
      let y := b.toNumber
      if x < y then some .lt else if x == y then some .eq else if y < x then some .gt else none

end Value

def UnaryOp.apply (op : UnaryOp) (operand : Value) : Value :=
  match op with
  | .not => .bool !operand.truthy
  | .neg => .ofFloat (-operand.toNumber)
  | .plus => .ofFloat operand.toNumber

def BinaryOp.apply (op : BinaryOp) (left right : Value) : Value :=
  let arithmetic (f : Float → Float → Float) : Value := .ofFloat (f left.toNumber right.toNumber)
  let ordered (holds : Ordering → Bool) : Value := .bool ((left.compare? right).any holds)
  match op with
  | .add =>
      if left.concatenates || right.concatenates then .string (left.toText ++ right.toText)
      else arithmetic (· + ·)
  | .sub => arithmetic (· - ·)
  | .mul => arithmetic (· * ·)
  | .div => arithmetic (· / ·)
  | .rem => arithmetic remainder
  | .equal => .bool (left.strictEq right)
  | .notEqual => .bool !left.strictEq right
  | .less => ordered (· == .lt)
  | .lessEqual => ordered (· != .gt)
  | .greater => ordered (· == .gt)
  | .greaterEqual => ordered (· != .lt)

/-- The left operand alone decides. -/
def LogicalOp.isDecidedBy (op : LogicalOp) (left : Value) : Bool :=
  match op with
  | .and => !left.truthy
  | .or => left.truthy
  | .coalesce => !left.isNull

namespace Scope

/-- Call a function of the namespace or, if it has none of that name, a built-in one. -/
def call (scope : Scope) (function : String) (args : List Value) : Except EvalError Value :=
  match (scope.ns.function? function).or (Builtin.find? function) with
  | some native => native args
  | none => .error (.unknownFunction function)

end Scope

namespace Expr

mutual

def eval (scope : Scope) : Expr → Except EvalError Value
  | literal value => .ok value
  | identifier name =>
      match scope.resolve? name with
      | some value => .ok value
      | none => .error (.unknownIdentifier name)
  | array items => do
      let values ← evalItems scope items
      return .array values
  | object entries => do
      let values ← evalEntries scope entries
      return .object (Entries.ofList values)
  | member subject property => do
      let subject ← eval scope subject
      let property ← eval scope property
      subject.member property
  | call function args => do
      let values ← evalItems scope args
      scope.call function values
  | unary op operand => do
      let value ← eval scope operand
      return op.apply value
  | binary op left right => do
      let left ← eval scope left
      let right ← eval scope right
      return op.apply left right
  | logical op left right => do
      let value ← eval scope left
      if op.isDecidedBy value then return value else eval scope right
  | conditional test consequent alternate => do
      let value ← eval scope test
      if value.truthy then eval scope consequent else eval scope alternate

def evalItems (scope : Scope) : List Expr → Except EvalError (List Value)
  | [] => .ok []
  | item :: rest => do
      let value ← eval scope item
      let values ← evalItems scope rest
      return value :: values

def evalEntries (scope : Scope) : List (String × Expr) → Except EvalError (List (String × Value))
  | [] => .ok []
  | (key, item) :: rest => do
      let value ← eval scope item
      let values ← evalEntries scope rest
      return (key, value) :: values

end

end Expr

/-- An expression compiled for named parameters. -/
structure Expression where
  source : String
  params : List String
  tree : Expr

namespace Expression

def compile (source : String) (params : List String) : Except Expr.CompileError Expression := do
  match checkExpressionLength source with
  | .error error => throw (.limit error)
  | .ok () =>
      let tokens ← Expr.tokenize source
      let tree ← Expr.parse tokens
      return { source, params, tree }

/-- Evaluate with arguments for the parameters and with local bindings. Missing arguments read as
null, and more than there are parameters are ignored. -/
def evalWithLocals (e : Expression) (args : List Value) (locals : List (String × Value))
    (ns : Namespace) : Except EvalError Value :=
  e.tree.eval { params := e.params, args, locals, ns }

def eval (e : Expression) (args : List Value) (ns : Namespace) : Except EvalError Value :=
  e.evalWithLocals args [] ns

end Expression

end Semblance
