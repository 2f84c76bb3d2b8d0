import Semblance.Text.Classes

/-!
# Quoted text

How a text is shown in messages: between double quotes, with the quote, the backslash, the line
controls and all that has no glyph of its own written as escapes.
-/

namespace Semblance.Text

/-- The digits of a number in lower-case hexadecimal. -/
def hex (n : Nat) : String := String.ofList (Nat.toDigits 16 n)

/-- The written form of one character inside quotes. -/
def quotedChar (c : Char) : String :=
  match c with
  | '"' => "\\\""
  | '\\' => "\\\\"
  | '\n' => "\\n"
  | '\r' => "\\r"
  | '\t' => "\\t"
  | '\x00' => "\\0"
  | _ =>
      if isPrintable c && !joiningMarks.contains c then c.toString
      else "\\u\x7b" ++ hex c.toNat ++ "\x7d"

def quoted (s : String) : String :=
  "\"" ++ String.join (s.toList.map quotedChar) ++ "\""

end Semblance.Text
