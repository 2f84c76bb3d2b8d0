import Semblance.Proofs.Matcher.LiteralSet
import Semblance.Proofs.Value.Classes

/-!
# Literal sets as sets of classes

A literal set compares keys, yet what it holds is said by equality alone: the classes of the
primitive values that were inserted. An insertion makes the set larger by one class or leaves it as
it is, and nothing can be told of the order of the insertions.
-/

namespace Semblance.LiteralSet

open Value

variable {s : LiteralSet} {values others : List Value} {a b v : Value}

/-! ## Primitive values -/

theorem canHold_eq_isPrimitive (v : Value) : canHold v = v.isPrimitive := by cases v <;> rfl

theorem isPrimitive_iff : v.isPrimitive = true ↔ ∃ key, LiteralKey.of? v = some key := by
  rw [← canHold_eq_isPrimitive, canHold, Option.isSome_iff_exists]

theorem isPrimitive_eq_of_strictEq (equal : a.strictEq b = true) :
    a.isPrimitive = b.isPrimitive := by
  cases strictEq_iff.mp equal <;> rfl

/-- A value is held if it equals one of those that were inserted; it is primitive if that one is. -/
theorem contains_ofList_iff : (ofList values).contains v = true ↔
    v.isPrimitive = true ∧ ∃ a ∈ values, a.strictEq v = true := by
  rw [contains_ofList]
  constructor
  · rintro ⟨a, mem, holds, equal⟩
    rw [canHold_eq_isPrimitive, isPrimitive_eq_of_strictEq equal] at holds
    exact ⟨holds, a, mem, equal⟩
  · rintro ⟨primitive, a, mem, equal⟩
    rw [← isPrimitive_eq_of_strictEq equal, ← canHold_eq_isPrimitive] at primitive
    exact ⟨a, mem, primitive, equal⟩

/-! ## One insertion -/

/-- A primitive value that is not held becomes a member, and nothing is done with other values. -/
theorem add_cases (s : LiteralSet) (v : Value) :
    ((v.isPrimitive = true ∧ s.contains v = false) ∧ s.adds v = true ∧
      (s.insert v).size = s.size + 1) ∨
    (¬(v.isPrimitive = true ∧ s.contains v = false) ∧ s.adds v = false ∧ s.insert v = s) := by
  rw [isPrimitive_iff, adds, insert]
  cases has : LiteralKey.of? v with
  | none =>
      rw [add_of_none has]
      exact .inr ⟨by simp, rfl, rfl⟩
  | some key =>
      by_cases there : key ∈ s.members
      · have held : s.contains v = true := contains_iff.mpr ⟨key, there, has⟩
        rw [add_of_mem has there]
        exact .inr ⟨by simp [held], rfl, rfl⟩
      · have missing : s.contains v = false := by
          rw [Bool.eq_false_iff]
          intro held
          obtain ⟨other, mem, same⟩ := contains_iff.mp held
          cases has.symm.trans same
          exact there mem
        rw [add_of_not_mem has there]
        exact .inl ⟨⟨⟨key, rfl⟩, missing⟩, rfl, rfl⟩

theorem adds_iff : s.adds v = true ↔ v.isPrimitive = true ∧ s.contains v = false := by
  rcases add_cases s v with ⟨new, adds, -⟩ | ⟨old, adds, -⟩
  · exact iff_of_true adds new
  · exact iff_of_false (Bool.eq_false_iff.mp adds) old

theorem insert_of_not_adds (adds : s.adds v = false) : s.insert v = s := by
  rcases add_cases s v with ⟨-, added, -⟩ | ⟨-, -, same⟩
  · cases adds.symm.trans added
  · exact same

/-- What is held after an insertion was held before or equals the value that was inserted. -/
theorem contains_insert (w : Value) : (s.insert v).contains w = true ↔
    s.contains w = true ∨ (v.isPrimitive = true ∧ v.strictEq w = true) := by
  simp only [contains_iff, mem_insert, or_and_right, exists_or]
  rw [or_comm]
  refine or_congr_right ?_
  constructor
  · rintro ⟨key, has, hasToo⟩
    exact ⟨isPrimitive_iff.mpr ⟨key, has⟩, (LiteralKey.of?_eq_iff has w).mp hasToo⟩
  · rintro ⟨primitive, equal⟩
    obtain ⟨key, has⟩ := isPrimitive_iff.mp primitive
    exact ⟨key, has, (LiteralKey.of?_eq_iff has w).mpr equal⟩

theorem size_insert_of_adds (adds : s.adds v = true) : (s.insert v).size = s.size + 1 := by
  rcases add_cases s v with ⟨-, -, larger⟩ | ⟨-, kept, -⟩
  · exact larger
  · cases adds.symm.trans kept

theorem size_insert : (s.insert v).size = s.size + (s.adds v).toNat := by
  cases adds : s.adds v with
  | true => exact size_insert_of_adds adds
  | false =>
      rw [insert_of_not_adds adds]
      rfl

/-! ## Many insertions -/

theorem ofList_concat (values : List Value) (v : Value) :
    ofList (values ++ [v]) = (ofList values).insert v := by
  rw [ofList, List.foldl_append]
  rfl

/-- The classes of the primitive values among some. -/
def primitiveClasses (values : List Value) : Finset Value.Class :=
  classes (values.filter (·.isPrimitive))

theorem classOf_mem_primitiveClasses (primitive : v.isPrimitive = true) :
    classOf v ∈ primitiveClasses values ↔ (ofList values).contains v = true := by
  rw [primitiveClasses, classOf_mem_classes, contains_ofList_iff]
  constructor
  · rintro ⟨a, mem, equal⟩
    exact ⟨primitive, a, List.mem_of_mem_filter mem, strictEq_symm equal⟩
  · rintro ⟨-, a, mem, equal⟩
    rw [← isPrimitive_eq_of_strictEq equal] at primitive
    exact ⟨a, List.mem_filter.mpr ⟨mem, primitive⟩, strictEq_symm equal⟩

theorem primitiveClasses_concat_of_not_isPrimitive (other : v.isPrimitive = false)
    (values : List Value) : primitiveClasses (values ++ [v]) = primitiveClasses values := by
  rw [primitiveClasses, List.filter_append, List.filter_singleton, other]
  exact congrArg classes (List.append_nil _)

theorem primitiveClasses_concat (primitive : v.isPrimitive = true) (values : List Value) :
    primitiveClasses (values ++ [v]) = Insert.insert (classOf v) (primitiveClasses values) := by
  rw [primitiveClasses, List.filter_append, List.filter_singleton, primitive, classes_append,
    Finset.union_comm]
  rfl

/-- A value brings a new class exactly if its insertion adds it. -/
theorem card_primitiveClasses_concat (values : List Value) (v : Value) :
    (primitiveClasses (values ++ [v])).card =
      (primitiveClasses values).card + ((ofList values).adds v).toNat := by
  cases adds : (ofList values).adds v with
  | true =>
      obtain ⟨primitive, missing⟩ := adds_iff.mp adds
      have fresh : classOf v ∉ primitiveClasses values := by
        rw [classOf_mem_primitiveClasses primitive, missing]
        exact Bool.false_ne_true
      rw [primitiveClasses_concat primitive, Finset.card_insert_of_notMem fresh]
      rfl
  | false =>
      cases primitive : v.isPrimitive with
      | true =>
          have there : (ofList values).contains v = true := by
            by_contra missing
            rw [adds_iff.mpr ⟨primitive, Bool.eq_false_iff.mpr missing⟩] at adds
            cases adds
          have known := (classOf_mem_primitiveClasses primitive).mpr there
          rw [primitiveClasses_concat primitive, Finset.insert_eq_of_mem known]
          rfl
      | false =>
          rw [primitiveClasses_concat_of_not_isPrimitive primitive]
          rfl

/-- The set has one member for each class, by induction on the insertions. -/
theorem size_ofList (values : List Value) :
    (ofList values).size = (primitiveClasses values).card := by
  induction values using List.reverseRecOn with
  | nil => rfl
  | append_singleton values v ih =>
      rw [ofList_concat, size_insert, ih, card_primitiveClasses_concat]

/-- A set that was made by insertions is a set of classes of equal values. -/
structure IsSetOfClasses (s : LiteralSet) (values : List Value) : Prop where
  contains_iff (v : Value) : s.contains v = true ↔
    v.isPrimitive = true ∧ ∃ a ∈ values, a.strictEq v = true
  /-- An insertion says whether the value is primitive and not held, -/
  adds_iff (v : Value) : s.adds v = true ↔ v.isPrimitive = true ∧ s.contains v = false
  /-- in which case its class is added and nothing else is, -/
  insert_new (v : Value) : s.adds v = true → (s.insert v).size = s.size + 1 ∧
    ∀ w, (s.insert v).contains w = true ↔ s.contains w = true ∨ v.strictEq w = true
  /-- and otherwise the set stays as it was. -/
  insert_old (v : Value) : s.adds v = false → s.insert v = s
  size_eq : s.size = (primitiveClasses values).card
  perm (others : List Value) : others.Perm values →
    (∀ v, (ofList others).contains v = s.contains v) ∧ (ofList others).size = s.size

/-- Whatever is inserted, and in which order, the set holds the classes of the primitive values. -/
theorem ofList_isSetOfClasses (values : List Value) : IsSetOfClasses (ofList values) values where
  contains_iff _ := contains_ofList_iff
  adds_iff _ := adds_iff
  insert_new v adds := by
    refine ⟨size_insert_of_adds adds, fun w => ?_⟩
    rw [contains_insert, (LiteralSet.adds_iff.mp adds).1]
    simp only [true_and]
  insert_old _ := insert_of_not_adds
  size_eq := size_ofList values
  perm others perm := by
    constructor
    · intro v
      rw [Bool.eq_iff_iff, contains_ofList_iff, contains_ofList_iff]
      simp only [perm.mem_iff]
    · rw [size_ofList, size_ofList]
      have same : SameSet (others.filter (·.isPrimitive)) (values.filter (·.isPrimitive)) :=
        sameSet_of_mem_iff fun a => (perm.filter _).mem_iff
      rw [primitiveClasses, primitiveClasses, classes_eq_iff.mpr same]

/-- Two zeros and two ways to write one are two members, and lists are none. -/
example :
    let values : List Value := [.ofNat 1, .float (-0.0), .array [], .float 1.0, .zero]
    (ofList values).size = 2 ∧ (ofList values).contains (.float 0.0) = true ∧
      (ofList values).adds (.array []) = false := by
  decide +kernel

end Semblance.LiteralSet
