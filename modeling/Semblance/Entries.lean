/-!
# Sorted entries

Maps are lists of entries in ascending order of their keys, each key once. `List.lookup` reads
them; `insert` keeps the order.
-/

namespace Semblance

namespace Entries

variable {α : Type}

/-- Add an entry, or replace the value of a key that is there. -/
def insert (key : String) (value : α) : List (String × α) → List (String × α)
  | [] => [(key, value)]
  | (k, v) :: rest =>
      if key < k then (key, value) :: (k, v) :: rest
      else if key = k then (key, value) :: rest
      else (k, v) :: insert key value rest

/-- Sort entries; of several with one key the last is kept. -/
def ofList (entries : List (String × α)) : List (String × α) :=
  entries.foldl (fun sorted entry => insert entry.1 entry.2 sorted) []

def erase (key : String) (entries : List (String × α)) : List (String × α) :=
  entries.filter (·.1 ≠ key)

/-- The keys ascend, so that each occurs once. -/
def Sorted (entries : List (String × α)) : Prop :=
  (entries.map Prod.fst).Pairwise (· < ·)

theorem lookup_insert_self (key : String) (value : α) (entries : List (String × α)) :
    (insert key value entries).lookup key = some value := by
  induction entries with
  | nil => simp [insert]
  | cons entry rest ih =>
      obtain ⟨k, v⟩ := entry
      simp only [insert]
      split
      · simp
      · split
        · simp
        · rename_i different
          simp [List.lookup_cons, beq_eq_false_iff_ne.mpr different, ih]

theorem lookup_insert_of_ne {key other : String} (different : other ≠ key) (value : α)
    (entries : List (String × α)) :
    (insert key value entries).lookup other = entries.lookup other := by
  have off : (other == key) = false := beq_eq_false_iff_ne.mpr different
  induction entries with
  | nil => simp [insert, List.lookup_cons, off]
  | cons entry rest ih =>
      obtain ⟨k, v⟩ := entry
      simp only [insert]
      split
      · simp [List.lookup_cons, off]
      · split
        · rename_i same
          subst same
          simp [List.lookup_cons, off]
        · simp [List.lookup_cons, ih]

end Entries

end Semblance
