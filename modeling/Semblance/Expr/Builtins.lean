import Semblance.Closeness
import Semblance.Expr.Scope
import Semblance.Text.Casing
import Semblance.Value.Equality

/-!
# Built-in functions

The functions that every expression can call. Each is a function of its arguments alone.
-/

namespace Semblance.Builtin

/-- An argument by position, null when it is missing. -/
def argument (args : List Value) (index : Nat) : Value := args.getD index .null

def expectArity (function : String) (args : List Value) (expected : Nat) :
    Except EvalError Unit :=
  if args.length = expected then .ok () else .error (.arity function expected args.length)

/-- The numeric reading of an argument, which must have one. -/
def numberArgument (function : String) (value : Value) : Except EvalError Float :=
  let x := value.toNumber
  if x.isNaN then .error (.function function s!"expected a number, got {value.kindName}")
  else .ok x

def unaryMath (function : String) (op : Float → Float) (args : List Value) :
    Except EvalError Value := do
  expectArity function args 1
  let x ← numberArgument function (argument args 0)
  return .ofFloat (op x)

/-- Cut off the fraction. -/
def truncate (x : Float) : Float := if x < 0.0 then x.ceil else x.floor

/-- Round half up, to whole numbers or to the decimals that a second argument gives. -/
def round (args : List Value) : Except EvalError Value := do
  let x ← numberArgument "round" (argument args 0)
  let digits ← match args.length with
    | 1 => pure 0.0
    | 2 => numberArgument "round" (argument args 1)
    | got => throw (.arity "round" 1 got)
  let scale := Float.pow 10.0 (truncate digits)
  return .ofFloat ((x * scale + 0.5).floor / scale)

def pow (args : List Value) : Except EvalError Value := do
  expectArity "pow" args 2
  let base ← numberArgument "pow" (argument args 0)
  let exponent ← numberArgument "pow" (argument args 1)
  return .ofFloat (Float.pow base exponent)

/-- Combine numbers from left to right; null if one item has no numeric reading. -/
def foldNumbers (op : Float → Float → Float) : Float → List Value → Value
  | acc, [] => .ofFloat acc
  | acc, item :: rest =>
      let x := item.toNumber
      if x.isNaN then .null else foldNumbers op (op acc x) rest

/-- The arguments, or the items of a list that is the only argument. -/
def operands : List Value → List Value
  | [.array items] => items
  | args => args

def smaller (x y : Float) : Float := if y < x then y else x

def larger (x y : Float) : Float := if x < y then y else x

def len (args : List Value) : Except EvalError Value := do
  expectArity "len" args 1
  match argument args 0 with
  | .string s => return .ofNat s.length
  | .array items => return .ofNat items.length
  | .object entries => return .ofNat entries.length
  | other =>
      throw (.function "len" s!"expected a string, array or object, got {other.kindName}")

def mapText (function : String) (op : String → String) (args : List Value) :
    Except EvalError Value := do
  expectArity function args 1
  return .string (op (argument args 0).toText)

def testTexts (function : String) (test : List Char → List Char → Bool) (args : List Value) :
    Except EvalError Value := do
  expectArity function args 2
  return .bool (test (argument args 0).toText.toList (argument args 1).toText.toList)

/-- The second text occurs in the first. -/
def containsText : List Char → List Char → Bool
  | [], part => part.isEmpty
  | c :: text, part => part.isPrefixOf (c :: text) || containsText text part

/-- A part of a text, an item of a list, or a key of a map. -/
def contains (args : List Value) : Except EvalError Value := do
  expectArity "contains" args 2
  let part := argument args 1
  match argument args 0 with
  | .string s => return .bool (containsText s.toList part.toText.toList)
  | .array items => return .bool (items.any (·.strictEq part))
  | .object entries => return .bool (entries.lookup part.toText).isSome
  | _ => return .bool false

/-- The keys of a map, or the positions of a list as texts. -/
def keys (args : List Value) : Except EvalError Value := do
  expectArity "keys" args 1
  match argument args 0 with
  | .object entries => return .array (entries.map fun entry => .string entry.1)
  | .array items => return .array ((List.range items.length).map fun i => .string (toString i))
  | _ => return .array []

def has (args : List Value) : Except EvalError Value := do
  expectArity "has" args 2
  return .bool ((argument args 0).lookup? (argument args 1).toText).isSome

/-- The first of each group of equal items, in order. -/
def distinct (items : List Value) : List Value :=
  items.foldl (fun seen item => if seen.any (·.strictEq item) then seen else seen ++ [item]) []

def setArgument (value : Value) : Except EvalError (List Value) :=
  match value with
  | .array items => .ok (distinct items)
  | _ => .error (.function "jaccard" s!"expected an array, got {value.kindName}")

/-- The share of the items of two sets that both have; zero for two empty sets. -/
def overlap (a b : List Value) : Float :=
  let both := (a.filter fun x => b.any fun y => x.strictEq y).length
  let either := a.length + b.length - both
  if either = 0 then 0.0 else Float.ofNat both / Float.ofNat either

def jaccard (args : List Value) : Except EvalError Value := do
  expectArity "jaccard" args 2
  let a ← setArgument (argument args 0)
  let b ← setArgument (argument args 1)
  return .ofFloat (overlap a b)

def closeness (function : String) (compare : Float → Float → Float → Float → Float → Float)
    (args : List Value) : Except EvalError Value := do
  expectArity function args 5
  let l ← numberArgument function (argument args 0)
  let r ← numberArgument function (argument args 1)
  let min ← numberArgument function (argument args 2)
  let reference ← numberArgument function (argument args 3)
  let max ← numberArgument function (argument args 4)
  return .ofFloat (compare l r min reference max)

/-- All built-in functions, sorted by name. -/
def table : List (String × NativeFunction) := [
  ("abs", unaryMath "abs" Float.abs),
  ("ceil", unaryMath "ceil" Float.ceil),
  ("contains", contains),
  ("endsWith", testTexts "endsWith" fun text part => part.isSuffixOf text),
  ("exp", unaryMath "exp" Binary64.exponential),
  ("floor", unaryMath "floor" Float.floor),
  ("gaussian", closeness "gaussian" Closeness.gaussian),
  ("has", has),
  ("jaccard", jaccard),
  ("keys", keys),
  ("len", len),
  ("linear", closeness "linear" Closeness.linear),
  ("lower", mapText "lower" Text.toLower),
  ("max", fun args => .ok (foldNumbers larger (-1.0 / 0.0) (operands args))),
  ("min", fun args => .ok (foldNumbers smaller (1.0 / 0.0) (operands args))),
  ("number", fun args => .ok (.ofFloat (argument args 0).toNumber)),
  ("pow", pow),
  ("round", round),
  ("sqrt", unaryMath "sqrt" Float.sqrt),
  ("startsWith", testTexts "startsWith" fun text part => part.isPrefixOf text),
  ("string", fun args => .ok (.string (argument args 0).toText)),
  ("trim", mapText "trim" fun s => String.ofList (Text.trim s.toList)),
  ("upper", mapText "upper" Text.toUpper)]

def names : List String := table.map Prod.fst

def find? (name : String) : Option NativeFunction := table.lookup name

end Semblance.Builtin
