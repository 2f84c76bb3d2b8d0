import Semblance.Unicode.Property

/-!
# Members of sets of characters

Ranges that overlap or touch are merged without a code point being lost or won, so the members of a
union are those of its parts. Two sets without a common member are told by their ranges alone, which
can be computed for tables of any length.
-/

namespace Semblance

namespace CharRange

/-- The ranges of a list in ascending order of their first code points. -/
def Ascends (rs : List CharRange) : Prop := rs.Pairwise fun r s => r.first ≤ s.first

/-- What a range absorbs was in the ranges after it. -/
theorem any_contains_absorb {r : CharRange} {rest : List CharRange} (ascends : Ascends (r :: rest))
    (n : Nat) :
    (r.absorb rest).any (·.contains n) = (r.contains n || rest.any (·.contains n)) := by
  induction rest generalizing r with
  | nil => rfl
  | cons s rest ih =>
      obtain ⟨least, later⟩ := List.pairwise_cons.mp ascends
      obtain ⟨above, restAscends⟩ := List.pairwise_cons.mp later
      have below : r.first ≤ s.first := least s List.mem_cons_self
      rw [absorb]
      split
      · rename_i touches
        have lengthened : Ascends (⟨r.first, max r.last s.last⟩ :: rest) :=
          List.pairwise_cons.mpr ⟨fun q mem => least q (List.mem_cons_of_mem s mem), restAscends⟩
        have joined : contains ⟨r.first, max r.last s.last⟩ n = (r.contains n || s.contains n) := by
          rw [Bool.eq_iff_iff]
          simp only [contains, Bool.or_eq_true, Bool.and_eq_true, decide_eq_true_eq]
          omega
        rw [ih lengthened, joined, List.any_cons, Bool.or_assoc]
      · rw [List.any_cons, ih later, List.any_cons]

theorem any_contains_merge {rs : List CharRange} (ascends : Ascends rs) (n : Nat) :
    (merge rs).any (·.contains n) = rs.any (·.contains n) := by
  cases rs with
  | nil => rfl
  | cons r rest => exact any_contains_absorb ascends n

end CharRange

namespace CharSet

/-- Neither the order of ranges nor those with swapped ends matter. -/
theorem containsCode_ofRanges (rs : List CharRange) (n : Nat) :
    (ofRanges rs).containsCode n = rs.any (·.contains n) := by
  let kept := rs.filter fun r => r.first ≤ r.last
  have ascends : CharRange.Ascends (kept.mergeSort fun a b => a.first ≤ b.first) := by
    have trans (a b c : CharRange) (first : decide (a.first ≤ b.first) = true)
        (second : decide (b.first ≤ c.first) = true) : decide (a.first ≤ c.first) = true := by
      rw [decide_eq_true_eq] at first second ⊢
      exact Nat.le_trans first second
    have total (a b : CharRange) :
        (decide (a.first ≤ b.first) || decide (b.first ≤ a.first)) = true := by
      rw [Bool.or_eq_true, decide_eq_true_eq, decide_eq_true_eq]
      exact Nat.le_total a.first b.first
    exact (List.pairwise_mergeSort trans total kept).imp of_decide_eq_true
  have sorted : (kept.mergeSort fun a b => a.first ≤ b.first).any (·.contains n) =
      kept.any (·.contains n) :=
    (List.mergeSort_perm kept fun a b => a.first ≤ b.first).any_eq
  rw [ofRanges, containsCode, CharRange.any_contains_merge ascends, sorted, List.any_filter]
  congr 1
  funext r
  rw [Bool.eq_iff_iff]
  simp only [CharRange.contains, Bool.and_eq_true, decide_eq_true_eq]
  omega

theorem contains_union (s t : CharSet) (c : Char) :
    (s.union t).contains c = (s.contains c || t.contains c) := by
  rw [contains, union, containsCode_ofRanges, List.any_append]
  rfl

theorem contains_unions (sets : List CharSet) (c : Char) :
    (unions sets).contains c = sets.any (·.contains c) := by
  rw [contains, unions, containsCode_ofRanges, List.any_flatMap]
  rfl

/-! ## Sets without a common member -/

/-- No range of one set meets one of the other. -/
def isDisjoint (s t : CharSet) : Bool :=
  s.ranges.all fun r => t.ranges.all fun q => r.last < q.first || q.last < r.first

theorem contains_eq_false_of_isDisjoint {s t : CharSet} (disjoint : s.isDisjoint t = true)
    {c : Char} (mem : t.contains c = true) : s.contains c = false := by
  obtain ⟨q, inRanges, holds⟩ := List.any_eq_true.mp mem
  rw [contains, containsCode, List.any_eq_false]
  intro r own
  have apart := List.all_eq_true.mp (List.all_eq_true.mp disjoint r own) q inRanges
  simp only [CharRange.contains, Bool.or_eq_true, Bool.and_eq_true, decide_eq_true_eq] at *
  omega

/-- Whether the members of a property of a list are apart from a set hangs on its table alone. -/
theorem isDisjoint_get {properties : List Unicode.Property} {name : String} {t : CharSet}
    (apart : ∀ p, properties.find? (·.names.contains name) = some p →
      (ofTable p.table).isDisjoint t = true) :
    (Unicode.Property.get properties name).isDisjoint t = true := by
  rw [Unicode.Property.get, Unicode.Property.find?]
  cases found : properties.find? (·.names.contains name) with
  | none => rfl
  | some p => exact apart p found

end CharSet

end Semblance
