import Semblance.Value

/-!
# Expression trees

The tree of an expression, its depth, and a walk that checks the depth without recursion on the
tree: it keeps a list of subtrees still to be visited.
-/

namespace Semblance

inductive UnaryOp where
  | not | neg | plus
  deriving DecidableEq, Repr

inductive BinaryOp where
  | add | sub | mul | div | rem
  | less | lessEqual | greater | greaterEqual
  | equal | notEqual
  deriving DecidableEq, Repr

/-- Operators that may leave their right side unevaluated. -/
inductive LogicalOp where
  | and | or | coalesce
  deriving DecidableEq, Repr

inductive Expr where
  | literal (value : Value)
  | identifier (name : String)
  | array (items : List Expr)
  | object (entries : List (String × Expr))
  | member (subject property : Expr)
  | call (function : String) (args : List Expr)
  | unary (op : UnaryOp) (operand : Expr)
  | binary (op : BinaryOp) (left right : Expr)
  | logical (op : LogicalOp) (left right : Expr)
  | conditional (test consequent alternate : Expr)

namespace Expr

instance : Inhabited Expr := ⟨literal .null⟩

mutual

/-- Leaves have depth 1, any other node one more than its deepest child. -/
def depth : Expr → Nat
  | literal _ | identifier _ => 1
  | array items => 1 + depthItems items
  | object entries => 1 + depthEntries entries
  | member subject property => 1 + max subject.depth property.depth
  | call _ args => 1 + depthItems args
  | unary _ operand => 1 + operand.depth
  | binary _ left right => 1 + max left.depth right.depth
  | logical _ left right => 1 + max left.depth right.depth
  | conditional test consequent alternate =>
      1 + max test.depth (max consequent.depth alternate.depth)

/-- The depth of the deepest of some trees, zero for none. -/
def depthItems : List Expr → Nat
  | [] => 0
  | item :: rest => max item.depth (depthItems rest)

def depthEntries : List (String × Expr) → Nat
  | [] => 0
  | (_, value) :: rest => max value.depth (depthEntries rest)

end

mutual

/-- The number of nodes. -/
def size : Expr → Nat
  | literal _ | identifier _ => 1
  | array items => 1 + sizeItems items
  | object entries => 1 + sizeEntries entries
  | member subject property => 1 + subject.size + property.size
  | call _ args => 1 + sizeItems args
  | unary _ operand => 1 + operand.size
  | binary _ left right => 1 + left.size + right.size
  | logical _ left right => 1 + left.size + right.size
  | conditional test consequent alternate =>
      1 + test.size + consequent.size + alternate.size

def sizeItems : List Expr → Nat
  | [] => 0
  | item :: rest => item.size + sizeItems rest

def sizeEntries : List (String × Expr) → Nat
  | [] => 0
  | (_, value) :: rest => value.size + sizeEntries rest

end

/-- The subtrees directly below the root. -/
def children : Expr → List Expr
  | literal _ | identifier _ => []
  | array items => items
  | object entries => entries.map Prod.snd
  | member subject property => [subject, property]
  | call _ args => args
  | unary _ operand => [operand]
  | binary _ left right => [left, right]
  | logical _ left right => [left, right]
  | conditional test consequent alternate => [test, consequent, alternate]

/-- The size of all trees that a walk has still to visit. -/
def pendingSize (pending : List (Expr × Nat)) : Nat := sizeItems (pending.map Prod.fst)

theorem sizeItems_append (items others : List Expr) :
    sizeItems (items ++ others) = sizeItems items + sizeItems others := by
  induction items with
  | nil => simp [sizeItems]
  | cons item rest ih => rw [List.cons_append, sizeItems, sizeItems, ih, Nat.add_assoc]

theorem sizeEntries_eq (entries : List (String × Expr)) :
    sizeEntries entries = sizeItems (entries.map Prod.snd) := by
  induction entries with
  | nil => rfl
  | cons entry rest ih => rw [sizeEntries, List.map_cons, sizeItems, ih]

theorem sizeItems_children (e : Expr) : sizeItems e.children + 1 = e.size := by
  cases e <;> simp only [children, size, sizeItems, sizeEntries_eq] <;> omega

/-- Visit the pending trees, each paired with the depth of its root. -/
def walkWithin (limit : Nat) : List (Expr × Nat) → Bool
  | [] => true
  | (e, level) :: rest =>
      if limit < level then false
      else walkWithin limit (e.children.map (·, level + 1) ++ rest)
termination_by pending => pendingSize pending
decreasing_by
  have smaller := sizeItems_children e
  have same : (e.children.map (·, level + 1)).map Prod.fst = e.children := by
    rw [List.map_map]
    exact List.map_id _
  rw [pendingSize, pendingSize, List.map_append, same, sizeItems_append, List.map_cons, sizeItems]
  dsimp only
  omega

/-- No node of the tree lies deeper than the limit. -/
def isWithinDepth (limit : Nat) (e : Expr) : Bool := walkWithin limit [(e, 1)]

end Expr

end Semblance
