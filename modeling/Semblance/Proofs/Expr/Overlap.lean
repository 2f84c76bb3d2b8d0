import Semblance.Expr.Builtins
import Semblance.Proofs.Binary64.Counts
import Semblance.Proofs.Value.Classes
import Semblance.Proofs.Value.Number

/-!
# The overlap of lists taken as sets

The function `jaccard` takes two lists for sets of classes of equal values: it divides the number
of the classes that both have members of by the number of those that one of them has. Which members
a list has of a class, how many and where, does not matter.

Counts are divided as binary64 numbers. What is said of the quotient one holds where these tell a
smaller count from a larger one, as they do below 53 bits.
-/

namespace Semblance

namespace Builtin

open Value

variable {seen items A B : List Value}

/-! ## Removing what is equal to an earlier item -/

/-- The step of `distinct`. -/
def insertDistinct (seen : List Value) (item : Value) : List Value :=
  if seen.any (·.strictEq item) then seen else seen ++ [item]

/-- A list with one member of each class that another has members of. -/
structure Represents (seen items : List Value) : Prop where
  apart : seen.Pairwise fun a b => ¬ SameItem a b
  classes : classes seen = classes items

theorem represents_insertDistinct (before : Represents seen items) (item : Value) :
    Represents (insertDistinct seen item) (items ++ [item]) := by
  have single : Value.classes [item] = {classOf item} := rfl
  unfold insertDistinct
  split
  · rename_i found
    obtain ⟨earlier, mem, equal⟩ := List.any_eq_true.mp found
    have inClasses : classOf item ∈ Value.classes items :=
      before.classes ▸ classOf_mem_classes.mpr ⟨earlier, mem, strictEq_symm equal⟩
    refine ⟨before.apart, ?_⟩
    rw [classes_append, single, before.classes,
      Finset.union_eq_left.mpr (Finset.singleton_subset_iff.mpr inClasses)]
  · rename_i fresh
    refine ⟨?_, by rw [classes_append, classes_append, before.classes]⟩
    rw [List.pairwise_append]
    refine ⟨before.apart, List.pairwise_singleton .., fun earlier mem other inSingle same => ?_⟩
    rw [List.mem_singleton.mp inSingle] at same
    exact fresh (List.any_eq_true.mpr ⟨earlier, mem, same⟩)

theorem represents_foldl (before : Represents seen items) (more : List Value) :
    Represents (more.foldl insertDistinct seen) (items ++ more) := by
  induction more generalizing seen items with
  | nil => rwa [List.foldl_nil, List.append_nil]
  | cons item more ih =>
      rw [List.foldl_cons, List.append_cons]
      exact ih (represents_insertDistinct before item)

theorem represents_distinct (items : List Value) : Represents (distinct items) items :=
  represents_foldl ⟨.nil, rfl⟩ items

theorem length_distinct (items : List Value) :
    (distinct items).length = (classes items).card := by
  have set := represents_distinct items
  rw [← card_classes set.apart, set.classes]

/-! ## Counts of classes -/

/-- The items that have an equal one in the other list. -/
def common (a b : List Value) : List Value := a.filter fun x => b.any fun y => x.strictEq y

theorem classes_common (A B : List Value) : classes (common A B) = classes A ∩ classes B := by
  ext c
  obtain ⟨a, rfl⟩ := exists_classOf c
  rw [Finset.mem_inter, classOf_mem_classes, classOf_mem_classes, classOf_mem_classes]
  simp only [common, List.mem_filter, List.any_eq_true]
  constructor
  · rintro ⟨x, ⟨inA, y, inB, equal⟩, same⟩
    exact ⟨⟨x, inA, same⟩, y, inB, strictEq_trans same equal⟩
  · rintro ⟨⟨x, inA, same⟩, y, inB, equal⟩
    exact ⟨x, ⟨inA, y, inB, strictEq_trans (strictEq_symm same) equal⟩, same⟩

/-- The number of classes with members in both lists. -/
def shared (A B : List Value) : Nat := (classes A ∩ classes B).card

/-- The number of classes with members in one list or the other. -/
def total (A B : List Value) : Nat := (classes A ∪ classes B).card

theorem length_common_distinct (A B : List Value) :
    (common (distinct A) (distinct B)).length = shared A B := by
  have first := represents_distinct A
  have second := represents_distinct B
  have apart : (common (distinct A) (distinct B)).Pairwise fun a b => ¬ SameItem a b :=
    first.apart.filter _
  rw [← card_classes apart, classes_common, first.classes, second.classes, shared]

theorem length_add_length_distinct (A B : List Value) :
    (distinct A).length + (distinct B).length = total A B + shared A B := by
  rw [length_distinct, length_distinct, total, shared, Finset.card_union_add_card_inter]

theorem shared_le_total (A B : List Value) : shared A B ≤ total A B :=
  Finset.card_le_card (Finset.inter_subset_left.trans Finset.subset_union_left)

theorem shared_comm (A B : List Value) : shared A B = shared B A := by
  rw [shared, shared, Finset.inter_comm]

theorem total_comm (A B : List Value) : total A B = total B A := by
  rw [total, total, Finset.union_comm]

theorem total_pos_iff : 0 < total A B ↔ A ≠ [] ∨ B ≠ [] := by
  rw [total, Finset.card_pos, Finset.nonempty_iff_ne_empty, Ne, Finset.union_eq_empty,
    classes_eq_empty_iff, classes_eq_empty_iff, not_and_or]

/-- All classes are shared if there are no others. -/
theorem shared_eq_total_iff : shared A B = total A B ↔ SameSet A B := by
  have whole : classes A ∩ classes B = classes A ∪ classes B ↔ classes A = classes B := inf_eq_sup
  rw [← classes_eq_iff, ← whole]
  constructor
  · intro same
    exact Finset.eq_of_subset_of_card_le
      (Finset.inter_subset_left.trans Finset.subset_union_left) same.ge
  · exact congrArg Finset.card

/-! ## The share -/

/-- One count over another, and zero over none. -/
def share (i u : Nat) : Float := if u = 0 then 0.0 else Float.ofNat i / Float.ofNat u

theorem overlap_eq (a b : List Value) :
    overlap a b = share (common a b).length (a.length + b.length - (common a b).length) :=
  rfl

theorem jaccard_eq (A B : List Value) :
    jaccard [.array A, .array B] = .ok (.ofFloat (share (shared A B) (total A B))) := by
  have value : jaccard [.array A, .array B] = .ok (.ofFloat (overlap (distinct A) (distinct B))) :=
    rfl
  rw [value, overlap_eq, length_common_distinct, length_add_length_distinct, Nat.add_sub_cancel]

theorem jaccard_congr {A' B' : List Value} (first : SameSet A' A) (second : SameSet B' B) :
    jaccard [.array A', .array B'] = jaccard [.array A, .array B] := by
  rw [jaccard_eq, jaccard_eq, shared, total, classes_eq_iff.mpr first, classes_eq_iff.mpr second,
    shared, total]

/-- What is taken for granted of the division of counts: a count over itself is one, and a smaller
one over it is less. -/
def Divides (i u : Nat) : Prop :=
  (0 < u → Float.ofNat u / Float.ofNat u = 1.0) ∧ (i < u → Float.ofNat i / Float.ofNat u < 1.0)

theorem divides_of_small {i u : Nat} (small : u < 2 ^ 53) : Divides i u :=
  ⟨fun some => Binary64.ofNat_div_self some small, fun less => Binary64.ofNat_div_lt_one less small⟩

theorem share_eq_one_iff {i u : Nat} (divides : Divides i u) (le : i ≤ u) :
    share i u = 1.0 ↔ i = u ∧ 0 < u := by
  unfold share
  rcases Nat.eq_zero_or_pos u with rfl | some
  · rw [if_pos rfl]
    exact iff_of_false (by decide +kernel) (fun some => Nat.lt_irrefl 0 some.2)
  · rw [if_neg some.ne']
    rcases Nat.lt_or_eq_of_le le with less | rfl
    · refine iff_of_false (fun one => ?_) (fun same => less.ne same.1)
      have below := divides.2 less
      rw [one] at below
      exact absurd below (by decide +kernel)
    · exact iff_of_true (divides.1 some) ⟨rfl, some⟩

theorem jaccard_eq_one_iff (divides : Divides (shared A B) (total A B)) :
    jaccard [.array A, .array B] = .ok (.ofFloat 1.0) ↔ SameSet A B ∧ A ≠ [] := by
  have finite : (1.0 : Float).isFinite = true := by decide +kernel
  have held (x : Float) : Value.ofFloat x = .ofFloat 1.0 ↔ x = 1.0 :=
    ⟨Value.eq_of_ofFloat_eq finite, congrArg Value.ofFloat⟩
  rw [jaccard_eq, Except.ok.injEq, held, share_eq_one_iff divides (shared_le_total A B),
    shared_eq_total_iff, total_pos_iff]
  refine and_congr_right fun same => ?_
  have empty : A = [] ↔ B = [] := by
    rw [← classes_eq_empty_iff, ← classes_eq_empty_iff, classes_eq_iff.mpr same]
  rw [Ne, Ne, empty, or_self]

/-! ## The measure -/

/-- The result for two lists is a measure of the sets that they stand for. -/
structure IsSetMeasure (A B : List Value) : Prop where
  value : jaccard [.array A, .array B] = .ok (.ofFloat
    (if total A B = 0 then 0.0 else Float.ofNat (shared A B) / Float.ofNat (total A B)))
  shared_le : shared A B ≤ total A B
  /-- The common items are counted with both lists, so that they can be taken off once. -/
  counted : (common (distinct A) (distinct B)).length = shared A B ∧
    (distinct A).length + (distinct B).length = total A B + shared A B
  comm : jaccard [.array A, .array B] = jaccard [.array B, .array A]
  sameSet {A' B' : List Value} : SameSet A' A → SameSet B' B →
    jaccard [.array A', .array B'] = jaccard [.array A, .array B]
  /-- Items in another order, or more than once. -/
  listed {A' B' : List Value} : (∀ a, a ∈ A' ↔ a ∈ A) → (∀ b, b ∈ B' ↔ b ∈ B) →
    jaccard [.array A', .array B'] = jaccard [.array A, .array B]
  replaced {A' B' : List Value} : List.Forall₂ SameItem A' A → List.Forall₂ SameItem B' B →
    jaccard [.array A', .array B'] = jaccard [.array A, .array B]
  one_iff : Divides (shared A B) (total A B) →
    (jaccard [.array A, .array B] = .ok (.ofFloat 1.0) ↔ SameSet A B ∧ A ≠ [])
  divides : total A B < 2 ^ 53 → Divides (shared A B) (total A B)

theorem jaccard_isSetMeasure (A B : List Value) : IsSetMeasure A B where
  value := jaccard_eq A B
  shared_le := shared_le_total A B
  counted := ⟨length_common_distinct A B, length_add_length_distinct A B⟩
  comm := by rw [jaccard_eq, jaccard_eq, shared_comm, total_comm]
  sameSet := jaccard_congr
  listed first second := jaccard_congr (sameSet_of_mem_iff first) (sameSet_of_mem_iff second)
  replaced first second := jaccard_congr (sameSet_of_forall₂ first) (sameSet_of_forall₂ second)
  one_iff := jaccard_eq_one_iff
  divides := divides_of_small

/-- Two ways to hold the number one, alone and in maps. -/
theorem jaccard_isSetMeasure_ones :
    let one : Value := .ofNat 1
    let point : Value := .float 1.0
    let map (v : Value) : Value := .object [("a", v)]
    let A := [one, map one]
    let B := [map point, point, one]
    Divides (shared A B) (total A B) ∧ jaccard [.array A, .array B] = .ok (.ofFloat 1.0) ∧
      jaccard [.array [map one, one, one], .array B] = jaccard [.array A, .array B] ∧
      jaccard [.array [point, map point], .array [map one, one, point]] =
        jaccard [.array A, .array B] := by
  intro one point map A B
  have measure := jaccard_isSetMeasure A B
  have small : total A B < 2 ^ 53 := by
    have counts := measure.counted.2
    have lengths : (distinct A).length + (distinct B).length = 4 := by decide +kernel
    omega
  have same : SameSet A B := by
    unfold SameSet
    decide +kernel
  have equal : SameItem point one ∧ SameItem one point ∧ SameItem (map one) (map point) ∧
      SameItem (map point) (map one) := by decide +kernel
  obtain ⟨down, up, mapUp, mapDown⟩ := equal
  refine ⟨measure.divides small, ?_, ?_, ?_⟩
  · exact (measure.one_iff (measure.divides small)).mpr ⟨same, List.cons_ne_nil _ _⟩
  · refine measure.listed (fun a => ?_) (fun _ => Iff.rfl)
    simp only [A, List.mem_cons, List.not_mem_nil, or_false, or_self]
    exact or_comm
  · exact measure.replaced (.cons down (.cons mapDown .nil))
      (.cons mapUp (.cons up (.cons down .nil)))

end Builtin

end Semblance
