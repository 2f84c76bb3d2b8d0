import Semblance.Value
import Semblance.Decimal.Reader

/-!
# Conversions of values

What a value counts as where a condition, a number or a text is asked for.
-/

namespace Semblance.Value

/-- What conditions and logical operators see: null, false, zero and the empty text do not hold;
lists and maps always do. -/
def truthy : Value → Bool
  | null => false
  | bool b => b
  | number n => n.toFloat != 0.0
  | string s => !s.isEmpty
  | array _ | object _ => true

/-- The numeric reading of a text: zero for a blank one. -/
def textToNumber (s : String) : Float :=
  match Text.trim s.toList with
  | [] => 0.0
  | cs => (Decimal.readFloat cs).getD (0.0 / 0.0)

/-- The numeric reading of a value, not a number where there is none. A list of one item reads as
that item. -/
def toNumber : Value → Float
  | null => 0.0
  | bool b => if b then 1.0 else 0.0
  | number n => n.toFloat
  | string s => textToNumber s
  | array [] => 0.0
  | array [item] => toNumber item
  | array _ => 0.0 / 0.0
  | object _ => 0.0 / 0.0

/-- A number as text, in positions. -/
def numberText (x : Float) : String := Notation.spelled.write x

mutual

/-- The text of a value. Items of a list are joined by commas, and a null item is empty. -/
def toText : Value → String
  | null => "null"
  | bool b => if b then "true" else "false"
  | number n => numberText n.toFloat
  | string s => s
  | array items => String.intercalate "," (itemTexts items)
  | object _ => "[object Object]"

def itemTexts : List Value → List String
  | [] => []
  | item :: rest => (if item.isNull then "" else toText item) :: itemTexts rest

end

end Semblance.Value
