import Semblance.Value

/-!
# Equality of values

Values of different kinds are never equal. Numbers compare by value, so `1` and `1.0` are equal;
lists and maps compare item by item.
-/

namespace Semblance.Value

mutual

def strictEq : Value → Value → Bool
  | null, null => true
  | bool a, bool b => a == b
  | number a, number b => a.toFloat == b.toFloat
  | string a, string b => a == b
  | array a, array b => strictEqItems a b
  | object a, object b => strictEqEntries a b
  | _, _ => false

def strictEqItems : List Value → List Value → Bool
  | [], [] => true
  | a :: as, b :: bs => strictEq a b && strictEqItems as bs
  | _, _ => false

/-- Maps are sorted by key, so equal ones have their entries at the same places. -/
def strictEqEntries : List (String × Value) → List (String × Value) → Bool
  | [], [] => true
  | (k, a) :: as, (l, b) :: bs => k == l && strictEq a b && strictEqEntries as bs
  | _, _ => false

end

end Semblance.Value
