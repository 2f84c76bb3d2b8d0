import Semblance.Proofs.Binary64.Conversion
import Semblance.Proofs.Entries
import Semblance.Value.Equality

/-!
# What equal values have in common

Equal values are of one kind. They need not be the same: numbers may be held in different ways, at
any depth. Beyond that equality is what one expects of it: it is reflexive, symmetric and
transitive, equal lists have equal items at each place, and equal maps have equal values under each
key.
-/

namespace Semblance

namespace Value

/-- An induction on values reaches the items of a list and the values of a map. -/
@[elab_as_elim, induction_eliminator]
theorem induction {P : Value → Prop} (null : P null) (bool : ∀ b, P (bool b))
    (number : ∀ n, P (number n)) (string : ∀ s, P (string s))
    (array : ∀ items, (∀ v ∈ items, P v) → P (array items))
    (object : ∀ entries, (∀ e ∈ entries, P e.2) → P (object entries)) (v : Value) : P v :=
  @Value.rec P (fun items => ∀ v ∈ items, P v) (fun entries => ∀ e ∈ entries, P e.2)
    (fun e => P e.2) null bool number string array object nofun
    (fun _ _ first later => List.forall_mem_cons.mpr ⟨first, later⟩) nofun
    (fun _ _ first later => List.forall_mem_cons.mpr ⟨first, later⟩) (fun _ _ value => value) v

/-! ## Equality by kinds -/

abbrev SameItem (v w : Value) : Prop := v.strictEq w = true

abbrev SameEntry : String × Value → String × Value → Prop := Entries.Related SameItem

/-- What a value looks like that is equal to another. -/
inductive Equals : Value → Value → Prop where
  | null : Equals null null
  | bool (b : Bool) : Equals (bool b) (bool b)
  | number {n m : Number} (same : n.toFloat == m.toFloat) : Equals (number n) (number m)
  | string (s : String) : Equals (string s) (string s)
  | array {items others : List Value} (same : List.Forall₂ SameItem items others) :
      Equals (array items) (array others)
  | object {entries others : List (String × Value)} (same : List.Forall₂ SameEntry entries others) :
      Equals (object entries) (object others)

theorem strictEqItems_iff {items others : List Value} :
    strictEqItems items others = true ↔ List.Forall₂ SameItem items others := by
  induction items generalizing others with
  | nil => cases others <;> simp [strictEqItems]
  | cons v rest ih =>
      cases others with
      | nil => simp [strictEqItems]
      | cons w others => simp [strictEqItems, ih]

theorem strictEqEntries_iff {entries others : List (String × Value)} :
    strictEqEntries entries others = true ↔ List.Forall₂ SameEntry entries others := by
  induction entries generalizing others with
  | nil => cases others <;> simp [strictEqEntries]
  | cons e rest ih =>
      obtain ⟨k, v⟩ := e
      cases others with
      | nil => simp [strictEqEntries]
      | cons f others => simp [strictEqEntries, ih, Entries.Related, and_assoc]

theorem strictEq_iff {a b : Value} : a.strictEq b = true ↔ Equals a b := by
  constructor
  · intro equal
    cases a <;> cases b <;> simp only [strictEq, Bool.false_eq_true, beq_iff_eq] at equal
    · exact .null
    · subst equal
      exact .bool _
    · exact .number equal
    · subst equal
      exact .string _
    · exact .array (strictEqItems_iff.mp equal)
    · exact .object (strictEqEntries_iff.mp equal)
  · intro equal
    cases equal with
    | null => simp [strictEq]
    | bool b => simp [strictEq]
    | number same => simpa [strictEq] using same
    | string s => simp [strictEq]
    | array same => simpa [strictEq] using strictEqItems_iff.mpr same
    | object same => simpa [strictEq] using strictEqEntries_iff.mpr same

/-! ## Reflexivity, symmetry and transitivity -/

/-- No number is held that would differ from itself. -/
theorem strictEq_refl (a : Value) : a.strictEq a = true := by
  induction a with
  | null => rfl
  | bool b => exact strictEq_iff.mpr (.bool b)
  | string s => exact strictEq_iff.mpr (.string s)
  | number n =>
      refine strictEq_iff.mpr (.number ?_)
      exact (Binary64.beq_iff _ _).mpr (.inl ⟨Binary64.isNaN_toFloat n, rfl⟩)
  | array items ih => exact strictEq_iff.mpr (.array (List.forall₂_same.mpr ih))
  | object entries ih =>
      refine strictEq_iff.mpr (.object (List.forall₂_same.mpr fun e mem => ⟨rfl, ?_⟩))
      exact ih e mem

theorem forall₂_symm {α : Type} {R : α → α → Prop} {as bs : List α}
    (symm : ∀ a ∈ as, ∀ b, R a b → R b a) (related : List.Forall₂ R as bs) :
    List.Forall₂ R bs as := by
  induction related with
  | nil => exact .nil
  | cons first _ ih =>
      obtain ⟨head, rest⟩ := List.forall_mem_cons.mp symm
      exact .cons (head _ first) (ih rest)

theorem forall₂_trans {α : Type} {R : α → α → Prop} {as bs cs : List α}
    (trans : ∀ a ∈ as, ∀ b c, R a b → R b c → R a c) (first : List.Forall₂ R as bs)
    (second : List.Forall₂ R bs cs) : List.Forall₂ R as cs := by
  induction first generalizing cs with
  | nil => exact second
  | cons here _ ih =>
      obtain ⟨head, rest⟩ := List.forall_mem_cons.mp trans
      cases second with
      | cons there later => exact .cons (head _ _ here there) (ih rest later)

theorem strictEq_symm {a b : Value} (equal : a.strictEq b = true) : b.strictEq a = true := by
  rw [strictEq_iff] at equal ⊢
  induction a generalizing b with
  | null =>
      cases equal
      exact .null
  | bool b =>
      cases equal
      exact .bool b
  | string s =>
      cases equal
      exact .string s
  | number n =>
      cases equal with
      | number same => exact .number (Binary64.beq_comm _ _ ▸ same)
  | array items ih =>
      cases equal with
      | array same =>
          refine .array (forall₂_symm (fun v mem w equal => ?_) same)
          exact strictEq_iff.mpr (ih v mem (strictEq_iff.mp equal))
  | object entries ih =>
      cases equal with
      | object same =>
          refine .object (forall₂_symm (fun e mem f equal => ⟨equal.1.symm, ?_⟩) same)
          exact strictEq_iff.mpr (ih e mem (strictEq_iff.mp equal.2))

theorem strictEq_comm (a b : Value) : a.strictEq b = b.strictEq a :=
  Bool.eq_iff_iff.mpr ⟨strictEq_symm, strictEq_symm⟩

theorem strictEq_trans {a b c : Value} (first : a.strictEq b = true)
    (second : b.strictEq c = true) : a.strictEq c = true := by
  rw [strictEq_iff] at first second ⊢
  induction a generalizing b c with
  | null =>
      cases first
      exact second
  | bool b =>
      cases first
      exact second
  | string s =>
      cases first
      exact second
  | number n =>
      cases first with
      | number same =>
          cases second with
          | number again => exact .number (Binary64.beq_trans same again)
  | array items ih =>
      cases first with
      | array same =>
          cases second with
          | array again =>
              refine .array (forall₂_trans (fun v mem w u first second => ?_) same again)
              exact strictEq_iff.mpr (ih v mem (strictEq_iff.mp first) (strictEq_iff.mp second))
  | object entries ih =>
      cases first with
      | object same =>
          cases second with
          | object again =>
              refine .object (forall₂_trans (fun e mem f g first second => ⟨?_, ?_⟩) same again)
              · exact first.1.trans second.1
              · exact strictEq_iff.mpr
                  (ih e mem (strictEq_iff.mp first.2) (strictEq_iff.mp second.2))

/-- What is compared with equal values cannot tell them apart. -/
theorem strictEq_congr_right (expected : Value) {a b : Value} (equal : a.strictEq b = true) :
    expected.strictEq a = expected.strictEq b := by
  rw [Bool.eq_iff_iff]
  constructor
  · intro first
    exact strictEq_trans first equal
  · intro first
    exact strictEq_trans first (strictEq_symm equal)

/-! ## Maps -/

theorem forall₂_of_lookup {entries others : List (String × Value)} (sorted : Entries.Sorted others)
    (keys : entries.map Prod.fst = others.map Prod.fst)
    (values : ∀ e ∈ entries, ∃ w, others.lookup e.1 = some w ∧ e.2.strictEq w = true) :
    List.Forall₂ SameEntry entries others := by
  induction entries generalizing others with
  | nil =>
      have empty : others = [] := List.map_eq_nil_iff.mp keys.symm
      subst empty
      exact .nil
  | cons e rest ih =>
      obtain ⟨k, v⟩ := e
      cases others with
      | nil => cases keys
      | cons f others =>
          obtain ⟨l, w⟩ := f
          obtain ⟨same, restKeys⟩ : k = l ∧ rest.map Prod.fst = others.map Prod.fst := by
            simpa using keys
          subst same
          obtain ⟨above, restSorted⟩ := List.pairwise_cons.mp sorted
          obtain ⟨⟨u, found, equal⟩, later⟩ := List.forall_mem_cons.mp values
          rw [Entries.lookup_head] at found
          cases found
          refine .cons ⟨rfl, equal⟩ (ih restSorted restKeys fun e mem => ?_)
          obtain ⟨u, found, equal⟩ := later e mem
          -- The first key is not met again, so what is found for the others lies behind it.
          have inOthers : e.1 ∈ others.map Prod.fst := restKeys ▸ List.mem_map_of_mem mem
          have off : (e.1 == k) = false := by
            rw [beq_eq_false_iff_ne]
            rintro rfl
            exact String.lt_irrefl _ (above _ inOthers)
          rw [List.lookup_cons, off] at found
          exact ⟨u, found, equal⟩

/-- Maps are equal when they have as many keys and what one of them has under a key is found in the
other; the places of the entries take no part. -/
theorem strictEq_object_iff {entries others : List (String × Value)}
    (sorted : Entries.Sorted entries) (otherSorted : Entries.Sorted others) :
    (object entries).strictEq (object others) = true ↔ entries.length = others.length ∧
      ∀ e ∈ entries, ∃ w, others.lookup e.1 = some w ∧ e.2.strictEq w = true := by
  rw [strictEq, strictEqEntries_iff]
  constructor
  · intro same
    refine ⟨same.length_eq, fun e mem => ?_⟩
    have related := Entries.lookup_rel same e.1
    rw [Entries.lookup_of_mem sorted mem] at related
    generalize others.lookup e.1 = found at related
    cases related with
    | some equal => exact ⟨_, rfl, equal⟩
  · rintro ⟨length, values⟩
    have subset : entries.map Prod.fst ⊆ others.map Prod.fst := by
      intro key mem
      obtain ⟨e, inEntries, rfl⟩ := List.mem_map.mp mem
      obtain ⟨w, found, -⟩ := values e inEntries
      exact List.mem_map.mpr ⟨(e.1, w), Entries.mem_of_lookup_eq_some found, rfl⟩
    have distinct : (entries.map Prod.fst).Nodup := sorted.imp String.ne_of_lt
    have perm : (entries.map Prod.fst).Perm (others.map Prod.fst) := by
      apply (List.subperm_of_subset distinct subset).perm_of_length_le
      rw [List.length_map, List.length_map, length]
    have keys : entries.map Prod.fst = others.map Prod.fst :=
      perm.eq_of_pairwise (fun k l _ _ below above => absurd above (String.lt_asymm below))
        sorted otherSorted
    exact forall₂_of_lookup otherSorted keys values

/-- Equality is an equivalence, although maps are checked from one side: as many keys, and each key
of the left one found in the right one with an equal value. -/
theorem strictEq_equivalence :
    (∀ a : Value, a.strictEq a = true) ∧
      (∀ a b : Value, a.strictEq b = b.strictEq a) ∧
      (∀ a b c : Value, a.strictEq b = true → b.strictEq c = true → a.strictEq c = true) ∧
      ∀ entries others, Entries.Sorted entries → Entries.Sorted others →
        ((object entries).strictEq (object others) = true ↔ entries.length = others.length ∧
          ∀ e ∈ entries, ∃ w, others.lookup e.1 = some w ∧ e.2.strictEq w = true) :=
  ⟨strictEq_refl, strictEq_comm, fun _ _ _ => strictEq_trans,
    fun _ _ sorted otherSorted => strictEq_object_iff sorted otherSorted⟩

/-- Two neighbouring integers equal the same number with a point, and so each other. -/
theorem strictEq_equivalence_rounded :
    let low : Value := .number (.int 9007199254740992 (by omega) (by omega))
    let point : Value := .number (.float 9007199254740992.0 (by decide +kernel))
    let high : Value := .number (.int 9007199254740993 (by omega) (by omega))
    let inside (v : Value) : List (String × Value) := [("a", v), ("b", .array [v])]
    (object (inside low)).strictEq (object (inside point)) = true ∧
      (object (inside point)).strictEq (object (inside high)) = true ∧
      (object (inside low)).strictEq (object (inside high)) = true ∧
      Entries.Sorted (inside low) ∧ Entries.Sorted (inside high) ∧
      ∀ e ∈ inside low, ∃ w, (inside high).lookup e.1 = some w ∧ e.2.strictEq w = true := by
  intro low point high inside
  obtain ⟨-, -, trans, maps⟩ := strictEq_equivalence
  have first : (object (inside low)).strictEq (object (inside point)) = true := by decide +kernel
  have second : (object (inside point)).strictEq (object (inside high)) = true := by
    decide +kernel
  have sorted (v : Value) : Entries.Sorted (inside v) :=
    List.pairwise_pair.mpr (show "a" < "b" by decide)
  have whole := trans _ _ _ first second
  exact ⟨first, second, whole, sorted low, sorted high,
    ((maps _ _ (sorted low) (sorted high)).mp whole).2⟩

end Value

end Semblance
