import Semblance.Limits
import Semblance.Decimal.Notation
import Semblance.Text.Quoted

/-!
# Tokens of expressions

What the lexer makes of a source and what can be wrong with one. The text of a token is the form in
which messages show it.
-/

namespace Semblance.Expr

inductive Punct where
  | leftParen | rightParen | leftBracket | rightBracket | leftBrace | rightBrace
  | comma | dot | question | colon | coalesce
  | not | notEqual | notSame | equal | same
  | less | lessEqual | greater | greaterEqual
  | plus | minus | star | slash | percent
  | and | or
  deriving DecidableEq, Repr

namespace Punct

def text : Punct → String
  | leftParen => "("
  | rightParen => ")"
  | leftBracket => "["
  | rightBracket => "]"
  | leftBrace => "\x7b"
  | rightBrace => "\x7d"
  | comma => ","
  | dot => "."
  | question => "?"
  | colon => ":"
  | coalesce => "??"
  | not => "!"
  | notEqual => "!="
  | notSame => "!=="
  | equal => "=="
  | same => "==="
  | less => "<"
  | lessEqual => "<="
  | greater => ">"
  | greaterEqual => ">="
  | plus => "+"
  | minus => "-"
  | star => "*"
  | slash => "/"
  | percent => "%"
  | and => "&&"
  | or => "||"

end Punct

inductive TokenKind where
  | number (value : Float)
  | string (value : String)
  | identifier (name : String)
  | punct (mark : Punct)
  deriving DecidableEq

namespace TokenKind

def text : TokenKind → String
  | number value => "number " ++ Notation.plain.write value
  | string value => "string " ++ Text.quoted value
  | identifier name => s!"identifier '{name}'"
  | punct mark => s!"'{mark.text}'"

end TokenKind

/-- A token with the byte offset at which it starts. -/
structure Token where
  kind : TokenKind
  offset : Nat
  deriving DecidableEq

/-- Why a source is not an expression. -/
inductive CompileError where
  | unexpectedChar (char : Char) (offset : Nat)
  | unterminatedString (offset : Nat)
  | invalidNumber (text : String)
  | unexpectedToken (found : TokenKind) (expected : String) (offset : Nat)
  | unexpectedEnd (expected : String)
  | invalidCall (offset : Nat)
  | limit (error : LimitError)
  deriving DecidableEq

namespace CompileError

def message : CompileError → String
  | unexpectedChar char offset => s!"Unexpected character '{char}' at offset {offset}"
  | unterminatedString offset => s!"Unterminated string starting at offset {offset}"
  | invalidNumber text => s!"Invalid number literal: {text}"
  | unexpectedToken found expected offset =>
      s!"Unexpected {found.text} at offset {offset}, expected {expected}"
  | unexpectedEnd expected => s!"Unexpected end of expression, expected {expected}"
  | invalidCall offset => s!"Only named functions can be called (offset {offset})"
  | limit error => error.message

end CompileError

end Semblance.Expr
