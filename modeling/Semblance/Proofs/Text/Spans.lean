import Mathlib.Data.List.TakeWhile

/-!
# Longest fronts of a class

The characters of a class at the front of a text, as many as there are, and what follows them: the
only way to cut the text so that all before the cut are of the class and what follows does not go on
with one.
-/

namespace Semblance.Text

variable {p : Char → Bool} {cs front rest : List Char}

/-- A run of characters of the class stops before this text. -/
def Stops (p : Char → Bool) (rest : List Char) : Prop := ∀ c ∈ rest.head?, p c = false

theorem stops_nil : Stops p [] := nofun

theorem stops_cons {c : Char} (other : p c = false) (rest : List Char) : Stops p (c :: rest) := by
  rintro d same
  cases same
  exact other

theorem stops_beq_iff {d : Char} : Stops (· == d) rest ↔ ∀ after, rest ≠ d :: after := by
  constructor
  · rintro stops after rfl
    exact absurd (stops d rfl) (by simp)
  · intro other c first
    rw [beq_eq_false_iff_ne]
    rintro rfl
    obtain ⟨after, same⟩ := List.head?_eq_some_iff.mp first
    exact other after same

/-- A run that stops before a text stops before what is left when the end of the text is cut off. -/
theorem Stops.of_append {more : List Char} (stops : Stops p (rest ++ more)) : Stops p rest := by
  cases rest with
  | nil => exact stops_nil
  | cons c rest => exact stops

theorem Stops.append_cons {c : Char} (stops : Stops p rest) (other : p c = false)
    (more : List Char) : Stops p (rest ++ c :: more) := by
  cases rest with
  | nil => exact stops_cons other more
  | cons d rest => exact stops

theorem span_eq_iff : (cs.takeWhile p = front ∧ cs.dropWhile p = rest) ↔
    cs = front ++ rest ∧ (∀ c ∈ front, p c = true) ∧ Stops p rest := by
  constructor
  · rintro ⟨rfl, rfl⟩
    refine ⟨List.takeWhile_append_dropWhile.symm, fun c => List.mem_takeWhile_imp, ?_⟩
    intro c first
    have other := List.head?_dropWhile_not p cs
    rw [Option.mem_def.mp first] at other
    exact other
  · rintro ⟨rfl, holds, stops⟩
    rw [List.takeWhile_append_of_pos holds, List.dropWhile_append_of_pos holds]
    cases rest with
    | nil => exact ⟨List.append_nil _, rfl⟩
    | cons c rest =>
        have other : p c = false := stops c rfl
        simp [other]

/-- Characters that are not of the class are not cut off with the front. -/
theorem mem_dropWhile {c : Char} (other : p c = false) (mem : c ∈ cs) : c ∈ cs.dropWhile p := by
  rw [← List.takeWhile_append_dropWhile (p := p) (l := cs), List.mem_append] at mem
  rcases mem with taken | left
  · have holds := List.mem_takeWhile_imp taken
    rw [other] at holds
    cases holds
  · exact left

/-- A text is cut at the first occurrence of a mark in one way. -/
theorem append_cons_inj {mark : Char} {others after : List Char} (left : mark ∉ front)
    (right : mark ∉ others) (same : front ++ mark :: rest = others ++ mark :: after) :
    front = others ∧ rest = after := by
  have stops (more : List Char) : Stops (· != mark) (mark :: more) := stops_cons (by simp) more
  have first : ∀ c ∈ front, (c != mark) = true :=
    fun c mem => bne_iff_ne.mpr (ne_of_mem_of_not_mem mem left)
  have second : ∀ c ∈ others, (c != mark) = true :=
    fun c mem => bne_iff_ne.mpr (ne_of_mem_of_not_mem mem right)
  obtain ⟨cut, tail⟩ := span_eq_iff.mpr ⟨rfl, first, stops rest⟩
  obtain ⟨cutToo, tailToo⟩ := span_eq_iff.mpr ⟨same, second, stops after⟩
  exact ⟨cut.symm.trans cutToo, (List.cons.inj (tail.symm.trans tailToo)).2⟩

end Semblance.Text
