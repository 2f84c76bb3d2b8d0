import Semblance.Expr.Lexer
import Semblance.Expr.Tree
import Semblance.Value.Coercion

/-!
# From tokens to expression trees

Operators bind, loosest first: `? :`, `??`, `||`, `&&`, equality, comparison, sums, products, the
unary operators, and then members, indexes and calls. Chains of one level group to the left.

The parser counts how deep it is nested and refuses what exceeds a limit. Chains do not nest the
parser but they deepen the tree, which is checked afterwards.
-/

namespace Semblance.Expr

/-- The tokens still to be read, and how deep the parser is nested. -/
structure ParserState where
  tokens : List Token
  depth : Nat

namespace ParserState

def peekPunct (s : ParserState) : Option Punct :=
  match s.tokens with
  | ⟨.punct mark, _⟩ :: _ => some mark
  | _ => none

def advance (s : ParserState) : ParserState := { s with tokens := s.tokens.drop 1 }

/-- Take a mark if it is next. -/
def eat? (s : ParserState) (mark : Punct) : Option ParserState :=
  if s.peekPunct = some mark then some s.advance else none

/-- The error for a next token that does not fit. -/
def unexpected (s : ParserState) (expected : String) : CompileError :=
  match s.tokens with
  | token :: _ => .unexpectedToken token.kind expected token.offset
  | [] => .unexpectedEnd expected

def expect (s : ParserState) (mark : Punct) (expected : String) :
    Except CompileError ParserState :=
  match s.eat? mark with
  | some s => .ok s
  | none => .error (s.unexpected expected)

/-- Go one level deeper. -/
def enter (limit : Nat) (s : ParserState) : Except CompileError ParserState :=
  if limit < s.depth + 1 then .error (.limit .expressionDepth)
  else .ok { s with depth := s.depth + 1 }

/-- Come back from one level. -/
def leave (s : ParserState) : ParserState := { s with depth := s.depth - 1 }

end ParserState

/-- An operator between two operands. -/
inductive Operator where
  | logical (op : LogicalOp)
  | binary (op : BinaryOp)
  deriving DecidableEq, Repr

def Operator.apply : Operator → Expr → Expr → Expr
  | .logical op, left, right => .logical op left right
  | .binary op, left, right => .binary op left right

/-- The operators of one level of binding. -/
abbrev Level := List (Punct × Operator)

/-- All levels, the loosest first. -/
def levels : List Level := [
  [(.coalesce, .logical .coalesce)],
  [(.or, .logical .or)],
  [(.and, .logical .and)],
  [(.equal, .binary .equal), (.same, .binary .equal), (.notEqual, .binary .notEqual),
    (.notSame, .binary .notEqual)],
  [(.less, .binary .less), (.lessEqual, .binary .lessEqual), (.greater, .binary .greater),
    (.greaterEqual, .binary .greaterEqual)],
  [(.plus, .binary .add), (.minus, .binary .sub)],
  [(.star, .binary .mul), (.slash, .binary .div), (.percent, .binary .rem)]]

/-- The operator of a level that is next, if one is. -/
def Level.next? (level : Level) (s : ParserState) : Option Operator :=
  s.peekPunct.bind fun mark => level.lookup mark

def unaryOperator? : Option Punct → Option UnaryOp
  | some .not => some .not
  | some .minus => some .neg
  | some .plus => some .plus
  | _ => none

/-- The value of a name that stands for one. -/
def wordLiteral? (name : String) : Option Value :=
  match name with
  | "true" => some (.bool true)
  | "false" => some (.bool false)
  | "null" | "undefined" => some .null
  | _ => none

/-- The key that a token gives an entry of an object. -/
def entryKey? : TokenKind → Option String
  | .identifier name => some name
  | .string name => some name
  | .number value => some (Value.numberText value)
  | .punct _ => none

/-- The error where the parser asks for an expression and there is none. -/
def missingExpression : CompileError := .unexpectedEnd "an expression"

mutual

/-- A full expression, one level deeper. -/
def parseExpression (limit : Nat) : Nat → ParserState → Except CompileError (Expr × ParserState)
  | 0, _ => .error missingExpression
  | fuel + 1, s => do
      let s ← s.enter limit
      let (e, s) ← parseConditional limit fuel s
      return (e, s.leave)

def parseConditional (limit : Nat) : Nat → ParserState → Except CompileError (Expr × ParserState)
  | 0, _ => .error missingExpression
  | fuel + 1, s => do
      let (test, s) ← parseLevels limit fuel levels s
      match s.eat? .question with
      | none => return (test, s)
      | some s =>
          let (consequent, s) ← parseExpression limit fuel s
          let s ← s.expect .colon "':'"
          let (alternate, s) ← parseExpression limit fuel s
          return (.conditional test consequent alternate, s)

/-- Operands of the tighter levels, joined by the operators of the first level. -/
def parseLevels (limit : Nat) :
    Nat → List Level → ParserState → Except CompileError (Expr × ParserState)
  | 0, _, _ => .error missingExpression
  | fuel + 1, [], s => parseUnary limit fuel s
  | fuel + 1, level :: tighter, s => do
      let (left, s) ← parseLevels limit fuel tighter s
      parseChain limit fuel level tighter left s

/-- More operators of a level after what has been read of the chain. -/
def parseChain (limit : Nat) :
    Nat → Level → List Level → Expr → ParserState → Except CompileError (Expr × ParserState)
  | 0, _, _, _, _ => .error missingExpression
  | fuel + 1, level, tighter, left, s =>
      match level.next? s with
      | none => .ok (left, s)
      | some op => do
          let (right, s) ← parseLevels limit fuel tighter s.advance
          parseChain limit fuel level tighter (op.apply left right) s

def parseUnary (limit : Nat) : Nat → ParserState → Except CompileError (Expr × ParserState)
  | 0, _ => .error missingExpression
  | fuel + 1, s =>
      match unaryOperator? s.peekPunct with
      | none => parsePostfix limit fuel s
      | some op => do
          let s ← s.advance.enter limit
          let (operand, s) ← parseUnary limit fuel s
          return (.unary op operand, s.leave)

def parsePostfix (limit : Nat) : Nat → ParserState → Except CompileError (Expr × ParserState)
  | 0, _ => .error missingExpression
  | fuel + 1, s => do
      let (e, s) ← parsePrimary limit fuel s
      parseSuffixes limit fuel e s

/-- Members, indexes and calls after what has been read of them. -/
def parseSuffixes (limit : Nat) :
    Nat → Expr → ParserState → Except CompileError (Expr × ParserState)
  | 0, _, _ => .error missingExpression
  | fuel + 1, e, s =>
      match s.peekPunct with
      | some .dot =>
          match s.advance.tokens with
          | ⟨.identifier name, _⟩ :: _ =>
              parseSuffixes limit fuel (.member e (.literal (.string name))) s.advance.advance
          | _ => .error (s.advance.unexpected "a property name")
      | some .leftBracket => do
          let (property, s) ← parseExpression limit fuel s.advance
          let s ← s.expect .rightBracket "']'"
          parseSuffixes limit fuel (.member e property) s
      | some .leftParen =>
          match e with
          | .identifier function => do
              let (args, s) ← parseItems limit fuel .rightParen "')'" s.advance
              parseSuffixes limit fuel (.call function args) s
          | _ => .error (.invalidCall ((s.tokens.head?.map (·.offset)).getD 0))
      | _ => .ok (e, s)

/-- Expressions separated by commas up to a closing mark. A comma may precede the mark. -/
def parseItems (limit : Nat) :
    Nat → Punct → String → ParserState → Except CompileError (List Expr × ParserState)
  | 0, _, _, _ => .error missingExpression
  | fuel + 1, close, expected, s =>
      match s.eat? close with
      | some s => .ok ([], s)
      | none => do
          let (item, s) ← parseExpression limit fuel s
          match s.eat? .comma with
          | some s =>
              let (items, s) ← parseItems limit fuel close expected s
              return (item :: items, s)
          | none =>
              let s ← s.expect close expected
              return ([item], s)

/-- Entries of an object up to its closing brace. A comma may precede the brace. -/
def parseEntries (limit : Nat) :
    Nat → ParserState → Except CompileError (List (String × Expr) × ParserState)
  | 0, _ => .error missingExpression
  | fuel + 1, s =>
      match s.eat? .rightBrace with
      | some s => .ok ([], s)
      | none =>
          match s.tokens.head?.bind fun token => entryKey? token.kind with
          | none => .error (s.unexpected "a property key")
          | some key => do
              let s ← s.advance.expect .colon "':'"
              let (value, s) ← parseExpression limit fuel s
              match s.eat? .comma with
              | some s =>
                  let (entries, s) ← parseEntries limit fuel s
                  return ((key, value) :: entries, s)
              | none =>
                  let s ← s.expect .rightBrace "'\x7d'"
                  return ([(key, value)], s)

/-- Literals, names, and what stands in brackets. -/
def parsePrimary (limit : Nat) : Nat → ParserState → Except CompileError (Expr × ParserState)
  | 0, _ => .error missingExpression
  | fuel + 1, s =>
      match s.tokens with
      | [] => .error missingExpression
      | token :: _ =>
          match token.kind with
          | .number value => .ok (.literal (.ofFloat value), s.advance)
          | .string value => .ok (.literal (.string value), s.advance)
          | .identifier name =>
              match wordLiteral? name with
              | some value => .ok (.literal value, s.advance)
              | none => .ok (.identifier name, s.advance)
          | .punct .leftParen => do
              let (e, s) ← parseExpression limit fuel s.advance
              let s ← s.expect .rightParen "')'"
              return (e, s)
          | .punct .leftBracket => do
              let s ← s.advance.enter limit
              let (items, s) ← parseItems limit fuel .rightBracket "']'" s
              return (.array items, s.leave)
          | .punct .leftBrace => do
              let s ← s.advance.enter limit
              let (entries, s) ← parseEntries limit fuel s
              return (.object entries, s.leave)
          | .punct _ => .error (s.unexpected "an expression")

end

/-- Every token opens at most all levels once, so this many calls nest at most. -/
def parserFuel (tokens : List Token) : Nat := 16 * (tokens.length + 1)

/-- Parse all tokens as one expression with a limit for nesting. -/
def parseWithin (limit : Nat) (tokens : List Token) : Except CompileError Expr := do
  let (e, s) ← parseExpression limit (parserFuel tokens) ⟨tokens, 0⟩
  if s.tokens.isEmpty then
    if e.isWithinDepth limit then return e else throw (.limit .expressionDepth)
  else throw (s.unexpected "end of expression")

def parse (tokens : List Token) : Except CompileError Expr := parseWithin maxExpressionDepth tokens

end Semblance.Expr
