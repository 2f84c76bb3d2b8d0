import Mathlib.Data.List.Forall2
import Semblance.Entries

/-!
# Sorted entries as finite maps

Insertion keeps entries sorted, and sorted entries are determined by what is found in them. So a map
that is filled in another order is the same list.
-/

namespace Semblance.Entries

variable {α β : Type}

theorem sorted_nil : Sorted ([] : List (String × α)) := List.Pairwise.nil

theorem mem_keys_insert {key : String} {value : α} {entries : List (String × α)} {k : String}
    (mem : k ∈ (insert key value entries).map Prod.fst) :
    k = key ∨ k ∈ entries.map Prod.fst := by
  induction entries with
  | nil => exact .inl (by simpa [insert] using mem)
  | cons entry rest ih =>
      obtain ⟨other, v⟩ := entry
      rw [insert] at mem
      split at mem
      · simpa using mem
      · split at mem
        · rcases List.mem_cons.mp mem with rfl | inRest
          · exact .inl rfl
          · exact .inr (List.mem_cons_of_mem _ inRest)
        · rcases List.mem_cons.mp mem with rfl | inRest
          · exact .inr List.mem_cons_self
          · exact (ih inRest).imp_right (List.mem_cons_of_mem _)

theorem sorted_insert (key : String) (value : α) {entries : List (String × α)}
    (sorted : Sorted entries) : Sorted (insert key value entries) := by
  induction entries with
  | nil => exact List.pairwise_singleton _ _
  | cons entry rest ih =>
      obtain ⟨k, v⟩ := entry
      obtain ⟨above, restSorted⟩ := List.pairwise_cons.mp sorted
      rw [insert]
      split
      · rename_i below
        refine List.pairwise_cons.mpr ⟨fun other mem => ?_, sorted⟩
        rcases List.mem_cons.mp mem with rfl | inRest
        · exact below
        · exact String.lt_trans below (above other inRest)
      · rename_i notBelow
        split
        · rename_i same
          subst same
          exact sorted
        · rename_i different
          have before : k < key := by
            apply Decidable.byContradiction
            intro notBefore
            exact different (String.le_antisymm notBefore notBelow)
          refine List.pairwise_cons.mpr ⟨fun other mem => ?_, ih restSorted⟩
          rcases mem_keys_insert mem with rfl | inRest
          · exact before
          · exact above other inRest

theorem lookup_eq_none_iff {key : String} {entries : List (String × α)} :
    entries.lookup key = none ↔ key ∉ entries.map Prod.fst := by
  rw [List.lookup_eq_none_iff]
  simp only [bne_iff_ne, List.mem_map, not_exists, not_and]
  constructor
  · intro off entry mem same
    exact off entry mem same.symm
  · intro off entry mem same
    exact off entry mem same.symm

theorem mem_of_lookup_eq_some {key : String} {value : α} {entries : List (String × α)}
    (found : entries.lookup key = some value) : (key, value) ∈ entries := by
  obtain ⟨before, after, rfl, -⟩ := List.lookup_eq_some_iff.mp found
  exact List.mem_append_right before List.mem_cons_self

theorem length_insert_of_lookup_eq_none {key : String} {entries : List (String × α)}
    (fresh : entries.lookup key = none) (value : α) :
    (insert key value entries).length = entries.length + 1 := by
  induction entries with
  | nil => rfl
  | cons entry rest ih =>
      obtain ⟨k, v⟩ := entry
      rw [lookup_eq_none_iff, List.map_cons, List.mem_cons, not_or] at fresh
      obtain ⟨different, off⟩ := fresh
      rw [insert]
      split
      · rfl
      · rw [List.length_cons, ih (lookup_eq_none_iff.mpr off), List.length_cons]

theorem lookup_head (key : String) (value : α) (rest : List (String × α)) :
    ((key, value) :: rest).lookup key = some value := by
  rw [List.lookup_cons, beq_self_eq_true]

theorem lookup_of_mem {entries : List (String × α)} (sorted : Sorted entries) {e : String × α}
    (mem : e ∈ entries) : entries.lookup e.1 = some e.2 := by
  induction entries with
  | nil => exact absurd mem List.not_mem_nil
  | cons first rest ih =>
      obtain ⟨above, restSorted⟩ := List.pairwise_cons.mp sorted
      rcases List.mem_cons.mp mem with rfl | inRest
      · exact lookup_head _ _ rest
      · have different : e.1 ≠ first.1 := by
          intro same
          exact String.lt_irrefl _ (same ▸ above e.1 (List.mem_map_of_mem inRest))
        rw [List.lookup_cons, beq_eq_false_iff_ne.mpr different]
        exact ih restSorted inRest

/-- A key below all others is not found. -/
theorem lookup_eq_none_of_lt {key : String} {entries : List (String × α)}
    (below : ∀ other ∈ entries.map Prod.fst, key < other) : entries.lookup key = none := by
  rw [lookup_eq_none_iff]
  intro mem
  exact String.lt_irrefl key (below key mem)

/-- The first key is the least that is found. -/
theorem not_lt_of_lookup {key first : String} {value found : α} {rest : List (String × α)}
    (sorted : Sorted ((first, value) :: rest))
    (there : ((first, value) :: rest).lookup key = some found) : ¬ key < first := by
  intro below
  have missing : ((first, value) :: rest).lookup key = none := by
    apply lookup_eq_none_of_lt
    intro other mem
    rcases List.mem_cons.mp mem with rfl | inRest
    · exact below
    · exact String.lt_trans below ((List.pairwise_cons.mp sorted).1 other inRest)
  rw [missing] at there
  cases there

/-- Sorted entries in which the same is found are the same. -/
theorem eq_of_lookup_eq {xs ys : List (String × α)} (sorted : Sorted xs) (otherSorted : Sorted ys)
    (same : ∀ key, xs.lookup key = ys.lookup key) : xs = ys := by
  induction xs generalizing ys with
  | nil =>
      cases ys with
      | nil => rfl
      | cons y others =>
          obtain ⟨l, w⟩ := y
          cases (same l).trans (lookup_head l w others)
  | cons x rest ih =>
      obtain ⟨k, v⟩ := x
      cases ys with
      | nil => cases (same k).symm.trans (lookup_head k v rest)
      | cons y others =>
          obtain ⟨l, w⟩ := y
          have found : ((l, w) :: others).lookup k = some v := (same k) ▸ lookup_head k v rest
          have otherFound : ((k, v) :: rest).lookup l = some w := (same l) ▸ lookup_head l w others
          -- Each first key is found in the other list, so neither is below the other.
          have key : k = l := String.le_antisymm (not_lt_of_lookup sorted otherFound)
            (not_lt_of_lookup otherSorted found)
          subst key
          have value : w = v := Option.some.inj ((lookup_head k w others).symm.trans found)
          subst value
          obtain ⟨above, restSorted⟩ := List.pairwise_cons.mp sorted
          obtain ⟨otherAbove, othersSorted⟩ := List.pairwise_cons.mp otherSorted
          congr 1
          -- The first key is not found again in the tails, and any other is looked for there.
          apply ih restSorted othersSorted
          intro key
          by_cases first : key = k
          · subst first
            rw [lookup_eq_none_of_lt above, lookup_eq_none_of_lt otherAbove]
          · have tails := same key
            rwa [List.lookup_cons, List.lookup_cons, beq_eq_false_iff_ne.mpr first] at tails

/-! ## Entries compared place by place -/

/-- The same key, with values that are related. -/
def Related (R : α → β → Prop) (e : String × α) (f : String × β) : Prop := e.1 = f.1 ∧ R e.2 f.2

variable {R : α → β → Prop} {entries : List (String × α)} {others : List (String × β)}

theorem keys_eq_of_forall₂ (related : List.Forall₂ (Related R) entries others) :
    entries.map Prod.fst = others.map Prod.fst := by
  induction related with
  | nil => rfl
  | cons first _ ih => rw [List.map_cons, List.map_cons, first.1, ih]

/-- Under each key there are related values or none. -/
theorem lookup_rel (related : List.Forall₂ (Related R) entries others) (key : String) :
    Option.Rel R (entries.lookup key) (others.lookup key) := by
  induction related with
  | nil => exact .none
  | @cons e f rest more first _ ih =>
      obtain ⟨k, v⟩ := e
      obtain ⟨l, w⟩ := f
      obtain ⟨same, value⟩ : k = l ∧ R v w := first
      subst same
      by_cases here : key = k
      · subst here
        rw [lookup_head, lookup_head]
        exact .some value
      · have off : (key == k) = false := beq_eq_false_iff_ne.mpr here
        simpa only [List.lookup_cons, off] using ih

/-- The place of a new entry depends on the keys alone. -/
theorem forall₂_insert (related : List.Forall₂ (Related R) entries others) (key : String) {v : α}
    {w : β} (value : R v w) :
    List.Forall₂ (Related R) (insert key v entries) (insert key w others) := by
  induction related with
  | nil => exact .cons ⟨rfl, value⟩ .nil
  | @cons e f rest more first later ih =>
      obtain ⟨k, v'⟩ := e
      obtain ⟨l, w'⟩ := f
      obtain ⟨same, old⟩ : k = l ∧ R v' w' := first
      subst same
      unfold insert
      by_cases before : key < k
      · simp only [if_pos before]
        exact .cons ⟨rfl, value⟩ (.cons ⟨rfl, old⟩ later)
      · by_cases here : key = k
        · simp only [if_neg before, if_pos here]
          exact .cons ⟨rfl, value⟩ later
        · simp only [if_neg before, if_neg here]
          exact .cons ⟨rfl, old⟩ ih

end Semblance.Entries
