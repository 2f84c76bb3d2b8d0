/-!
# Confidence

How far a similarity can be trusted to mean that two subjects are the same.
-/

namespace Semblance

inductive Confidence where
  | low
  | medium
  | high
  | exact
  deriving DecidableEq, Repr

namespace Confidence

def ofScore (score : Float) : Confidence :=
  if score ≥ 1.0 then exact
  else if score ≥ 0.95 then high
  else if score ≥ 0.8 then medium
  else low

def name : Confidence → String
  | low => "low"
  | medium => "medium"
  | high => "high"
  | exact => "exact"

def ofName? : String → Option Confidence
  | "low" => some low
  | "medium" => some medium
  | "high" => some high
  | "exact" => some exact
  | _ => none

/-- The place of a level, the lowest first. -/
def rank : Confidence → Nat
  | low => 0
  | medium => 1
  | high => 2
  | exact => 3

instance : Max Confidence := ⟨fun a b => if a.rank ≤ b.rank then b else a⟩

end Confidence

end Semblance
