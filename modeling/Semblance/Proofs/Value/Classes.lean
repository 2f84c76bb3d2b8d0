import Mathlib.Data.Finset.Card
import Semblance.Proofs.Value.Equality

/-!
# Classes of equal values

Equal values are one class. A list has members of some classes, and lists with members of the same
classes are the same set.
-/

namespace Semblance.Value

variable {items others : List Value} {a b : Value}

/-! ## Classes -/

def equality : Setoid Value where
  r := SameItem
  iseqv := ⟨strictEq_refl, strictEq_symm, strictEq_trans⟩

/-- A class of equal values. -/
def Class : Type := Quotient equality

instance : DecidableEq Class :=
  @Quotient.decidableEq _ equality fun a b => inferInstanceAs (Decidable (a.strictEq b = true))

def classOf (a : Value) : Class := Quotient.mk equality a

theorem classOf_eq_iff : classOf a = classOf b ↔ SameItem a b := Quotient.eq

theorem exists_classOf (c : Class) : ∃ a, classOf a = c := Quotient.exists_rep c

/-- The classes that a list has members of. -/
def classes (items : List Value) : Finset Class := (items.map classOf).toFinset

/-- Each value of one list is equal to one of the other. -/
def SameSet (items others : List Value) : Prop :=
  (∀ a ∈ items, ∃ b ∈ others, SameItem a b) ∧ ∀ b ∈ others, ∃ a ∈ items, SameItem a b

theorem classOf_mem_classes : classOf a ∈ classes items ↔ ∃ b ∈ items, SameItem a b := by
  simp only [classes, List.mem_toFinset, List.mem_map, classOf_eq_iff]
  refine exists_congr fun b => and_congr_right fun _ => ?_
  exact ⟨strictEq_symm, strictEq_symm⟩

theorem classes_append : classes (items ++ others) = classes items ∪ classes others := by
  rw [classes, List.map_append, List.toFinset_append, classes, classes]

theorem classes_subset_iff :
    classes items ⊆ classes others ↔ ∀ a ∈ items, ∃ b ∈ others, SameItem a b := by
  constructor
  · intro subset a mem
    exact classOf_mem_classes.mp (subset (classOf_mem_classes.mpr ⟨a, mem, strictEq_refl a⟩))
  · intro each c mem
    obtain ⟨a, rfl⟩ := exists_classOf c
    obtain ⟨b, inItems, same⟩ := classOf_mem_classes.mp mem
    obtain ⟨d, inOthers, equal⟩ := each b inItems
    exact classOf_mem_classes.mpr ⟨d, inOthers, strictEq_trans same equal⟩

theorem classes_eq_iff : classes items = classes others ↔ SameSet items others := by
  rw [Finset.Subset.antisymm_iff, classes_subset_iff, classes_subset_iff]
  refine and_congr_right fun _ => forall₂_congr fun b _ => ?_
  refine exists_congr fun a => and_congr_right fun _ => ?_
  exact ⟨strictEq_symm, strictEq_symm⟩

theorem classes_eq_empty_iff : classes items = ∅ ↔ items = [] := by
  rw [classes, List.toFinset_eq_empty_iff, List.map_eq_nil_iff]

/-- Where no two values are equal, each has a class of its own. -/
theorem card_classes (apart : items.Pairwise fun a b => ¬ SameItem a b) :
    (classes items).card = items.length := by
  rw [classes, List.toFinset_card_of_nodup, List.length_map]
  exact List.pairwise_map.mpr (apart.imp fun other same => other (classOf_eq_iff.mp same))

/-! ## Lists that are the same set -/

theorem sameSet_of_mem_iff (same : ∀ a, a ∈ items ↔ a ∈ others) : SameSet items others :=
  ⟨fun a mem => ⟨a, (same a).mp mem, strictEq_refl a⟩,
    fun a mem => ⟨a, (same a).mpr mem, strictEq_refl a⟩⟩

theorem sameSet_of_forall₂ (same : List.Forall₂ SameItem items others) : SameSet items others := by
  induction same with
  | nil => exact ⟨nofun, nofun⟩
  | @cons a b rest more first _ ih =>
      constructor
      · refine List.forall_mem_cons.mpr ⟨⟨b, List.mem_cons_self, first⟩, fun d mem => ?_⟩
        obtain ⟨e, inMore, equal⟩ := ih.1 d mem
        exact ⟨e, List.mem_cons_of_mem _ inMore, equal⟩
      · refine List.forall_mem_cons.mpr ⟨⟨a, List.mem_cons_self, first⟩, fun e mem => ?_⟩
        obtain ⟨d, inRest, equal⟩ := ih.2 e mem
        exact ⟨d, List.mem_cons_of_mem _ inRest, equal⟩

end Semblance.Value
