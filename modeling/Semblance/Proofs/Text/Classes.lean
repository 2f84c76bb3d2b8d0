import Semblance.Proofs.CharSet
import Semblance.Text.Classes

/-!
# Blanks among the character classes

A blank is no letter and no numeral, in all of Unicode. The tables of the standard are long, so
each is compared with the ranges of the blanks by computing; for that the text of a table is taken
for the list of its characters.
-/

namespace Semblance.Text

open CharSet Unicode

/-! ## Tables without blanks -/

set_option maxRecDepth 20000 in
theorem isDisjoint_laterAlphabetic : laterAlphabetic.isDisjoint blanks = true := by
  change (ofTable (String.ofList _)).isDisjoint blanks = true
  rw [ofTable_ofList]
  decide +kernel

theorem isDisjoint_laterNumeric : laterNumeric.isDisjoint blanks = true := by
  change (ofTable (String.ofList _)).isDisjoint blanks = true
  rw [ofTable_ofList]
  decide +kernel

set_option maxRecDepth 200000 in
theorem isDisjoint_alphabetic_table :
    (Property.get binaryProperties "alphabetic").isDisjoint blanks = true := by
  apply isDisjoint_get
  -- The table is found by its name.
  simp only [binaryProperties, List.find?, List.contains_eq_mem, List.mem_cons, List.not_mem_nil,
    or_false, or_true, String.reduceEq, decide_false, decide_true, Option.some.injEq, forall_eq']
  change (ofTable (String.ofList _)).isDisjoint blanks = true
  rw [ofTable_ofList]
  decide +kernel

set_option maxRecDepth 200000 in
theorem isDisjoint_numeral_table {name : String} (mem : name ∈ ["nd", "nl", "no"]) :
    (Property.get categories name).isDisjoint blanks = true := by
  apply isDisjoint_get
  simp only [List.mem_cons, List.not_mem_nil, or_false] at mem
  rcases mem with rfl | rfl | rfl <;>
    · simp only [categories, List.find?, List.contains_eq_mem, List.mem_cons, List.not_mem_nil,
        or_false, String.reduceEq, decide_false, decide_true, Option.some.injEq,
        forall_eq']
      change (ofTable (String.ofList _)).isDisjoint blanks = true
      rw [ofTable_ofList]
      decide +kernel

/-! ## Classes without blanks -/

variable {c : Char}

theorem contains_alphabetic_of_isBlank (blank : isBlank c = true) :
    alphabetic.contains c = false := by
  rw [alphabetic, contains_union, contains_eq_false_of_isDisjoint isDisjoint_alphabetic_table blank,
    contains_eq_false_of_isDisjoint isDisjoint_laterAlphabetic blank]
  rfl

theorem contains_numeric_of_isBlank (blank : isBlank c = true) : numeric.contains c = false := by
  rw [numeric, contains_unions, List.any_eq_false]
  intro s mem
  rw [Bool.not_eq_true]
  rcases List.mem_cons.mp mem with rfl | table
  · exact contains_eq_false_of_isDisjoint isDisjoint_laterNumeric blank
  · obtain ⟨name, named, rfl⟩ := List.mem_map.mp table
    exact contains_eq_false_of_isDisjoint (isDisjoint_numeral_table named) blank

/-- The blanks of ASCII are the space and controls before it. -/
theorem toNat_of_isBlank (blank : isBlank c = true) : c.toNat ≤ 32 ∨ 128 ≤ c.toNat := by
  simp only [isBlank, CharSet.contains, containsCode, blanks, List.any_cons, List.any_nil,
    CharRange.contains, Bool.or_eq_true, Bool.and_eq_true, decide_eq_true_eq,
    Bool.or_false] at blank
  omega

theorem isAsciiDigit_of_isBlank (blank : isBlank c = true) : isAsciiDigit c = false := by
  have code := toNat_of_isBlank blank
  rw [Bool.eq_false_iff]
  intro digit
  simp only [isAsciiDigit, Bool.and_eq_true, decide_eq_true_eq, Char.le_def,
    UInt32.le_iff_toNat_le] at digit
  simp only [Char.toNat, Char.reduceVal, UInt32.reduceToNat] at code digit
  omega

theorem isAsciiLetter_of_isBlank (blank : isBlank c = true) : isAsciiLetter c = false := by
  have code := toNat_of_isBlank blank
  rw [Bool.eq_false_iff]
  intro letter
  simp only [isAsciiLetter, Bool.or_eq_true, Bool.and_eq_true, decide_eq_true_eq, Char.le_def,
    UInt32.le_iff_toNat_le] at letter
  simp only [Char.toNat, Char.reduceVal, UInt32.reduceToNat] at code letter
  omega

theorem isAlphanumeric_of_isBlank (blank : isBlank c = true) : isAlphanumeric c = false := by
  rw [isAlphanumeric]
  split
  · rw [isAsciiLetter_of_isBlank blank, isAsciiDigit_of_isBlank blank]
    rfl
  · rw [contains_alphabetic_of_isBlank blank, contains_numeric_of_isBlank blank]
    rfl

end Semblance.Text
