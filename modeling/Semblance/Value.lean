import Semblance.Entries
import Semblance.Value.Number

/-!
# Values

The loosely typed values that patterns test and rules score: null, booleans, numbers, texts, lists
and maps. The entries of a map are sorted by key.
-/

namespace Semblance

inductive Value where
  | null
  | bool (value : Bool)
  | number (value : Number)
  | string (value : String)
  | array (items : List Value)
  | object (entries : List (String × Value))

namespace Value

instance : Inhabited Value := ⟨null⟩

/-- The number zero. -/
def zero : Value := number (.int 0 (by omega) (by omega))

def ofNat (n : Nat) : Value := number (.ofNat n)

/-- The short name of a value's kind, for messages. -/
def kindName : Value → String
  | null => "null"
  | bool _ => "boolean"
  | number _ => "number"
  | string _ => "string"
  | array _ => "array"
  | object _ => "object"

def isNull : Value → Bool
  | null => true
  | _ => false

/-- Null, booleans, numbers and texts. -/
def isPrimitive : Value → Bool
  | array _ | object _ => false
  | _ => true

def lookup? (key : String) : Value → Option Value
  | object entries => entries.lookup key
  | _ => none

/-- Whole numbers of smaller magnitude are held as integers. -/
def exactBound : Float := 9007199254740992.0

/-- The sign bit is not set. -/
def isSignPositive (x : Float) : Bool := x.toBits < 0x8000000000000000

/-- Signed integers of 64 bits are among the integers that a number can hold. -/
theorem toInt_lt_unsignedBound (n : Int64) : n.toInt < 0x10000000000000000 :=
  Int.lt_trans (Int64.toInt_lt n) (by decide)

/-- The value of a computed number: an integer where that is exact and keeps the sign of zero, and
null where there is no number. -/
def ofFloat (x : Float) : Value :=
  -- What is behind the point is cut off from the parts; the conversion of the machine has no
  -- definition that a proof could open.
  let whole := x.toModel.toInt64
  if x.abs < exactBound && Float.ofInt whole.toInt == x && (whole != 0 || isSignPositive x) then
    number (.int whole.toInt (Int64.le_toInt whole) (toInt_lt_unsignedBound whole))
  else
    match Number.ofFloat? x with
    | some n => number n
    | none => null

/-- A computed number as it stands; null where it is not finite. -/
def float (x : Float) : Value :=
  match Number.ofFloat? x with
  | some n => number n
  | none => null

end Value

end Semblance
