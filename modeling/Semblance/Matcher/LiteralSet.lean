import Semblance.Value

/-!
# Sets of literals

Primitive values that are equal are one member. A set answers membership without comparing values
one by one: it compares keys, and equal values have the same key.
-/

namespace Semblance

/-- What equal primitive values have in common. -/
inductive LiteralKey where
  | null
  | bool (value : Bool)
  | number (bits : UInt64)
  | string (value : String)
  deriving DecidableEq, Repr

namespace LiteralKey

/-- The bits of a number; both zeros have those of the positive one. -/
def numberBits (x : Float) : UInt64 := if x == 0.0 then (0.0 : Float).toBits else x.toBits

/-- The key of a primitive value. -/
def of? : Value → Option LiteralKey
  | .null => some null
  | .bool b => some (bool b)
  | .number n => some (number (numberBits n.toFloat))
  | .string s => some (string s)
  | .array _ | .object _ => none

end LiteralKey

structure LiteralSet where
  members : List LiteralKey
  nodup : members.Nodup := by simp

namespace LiteralSet

def empty : LiteralSet := { members := [] }

def canHold (value : Value) : Bool := (LiteralKey.of? value).isSome

def contains (s : LiteralSet) (value : Value) : Bool :=
  match LiteralKey.of? value with
  | some key => s.members.contains key
  | none => false

/-- Add a value, unless it is there or is no primitive. The flag says whether it has been added. -/
def add (s : LiteralSet) (value : Value) : Bool × LiteralSet :=
  match LiteralKey.of? value with
  | none => (false, s)
  | some key =>
      if h : key ∈ s.members then (false, s)
      else (true, { members := key :: s.members, nodup := List.nodup_cons.mpr ⟨h, s.nodup⟩ })

/-- The flag of `add`. -/
def adds (s : LiteralSet) (value : Value) : Bool := (s.add value).1

/-- The set that `add` leaves. -/
def insert (s : LiteralSet) (value : Value) : LiteralSet := (s.add value).2

variable {s : LiteralSet} {value : Value} {key : LiteralKey}

theorem add_of_none (other : LiteralKey.of? value = none) : s.add value = (false, s) := by
  rw [add]
  simp only [other]

theorem add_of_mem (has : LiteralKey.of? value = some key) (there : key ∈ s.members) :
    s.add value = (false, s) := by
  rw [add]
  simp only [has, dif_pos there]

theorem add_of_not_mem (has : LiteralKey.of? value = some key) (fresh : key ∉ s.members) :
    s.add value = (true, ⟨key :: s.members, List.nodup_cons.mpr ⟨fresh, s.nodup⟩⟩) := by
  rw [add]
  simp only [has, dif_neg fresh]

theorem mem_insert : key ∈ (s.insert value).members ↔
    LiteralKey.of? value = some key ∨ key ∈ s.members := by
  rw [insert]
  cases has : LiteralKey.of? value with
  | none => simp [add_of_none has]
  | some own =>
      by_cases there : own ∈ s.members
      · rw [add_of_mem has there, Option.some.injEq]
        exact (or_iff_right_of_imp fun same => same ▸ there).symm
      · simp [add_of_not_mem has there, eq_comm]

def ofList (values : List Value) : LiteralSet := values.foldl insert empty

def size (s : LiteralSet) : Nat := s.members.length

def isEmpty (s : LiteralSet) : Bool := s.members.isEmpty

end LiteralSet

end Semblance
