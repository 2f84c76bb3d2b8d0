import Semblance.Proofs.Entries
import Semblance.Proofs.Pattern.Shapes

/-!
# Positions in a pattern

A pattern is compiled from the patterns within it: the points of a fit, the members of a choice, the
values of a map that names no schema, and the parts of `and`. What a map gives to another schema is
not looked into. Each of these patterns is less deep than the one it is in, so a property of
patterns can be proved from these positions upwards.
-/

namespace Semblance.Pattern

theorem depth_lt_of_mem_items {p : Pattern} {items : List Pattern} (mem : p ∈ items) :
    p.depth < (sequence items).depth := by
  have lower := depth_le_depthOfItems mem
  rw [depth]
  omega

theorem depth_lt_of_mem_entries {e : String × Pattern} {entries : List (String × Pattern)}
    (mem : e ∈ entries) : e.2.depth < (map entries).depth := by
  have lower : e.2.depth ≤ depthOfEntries entries := by
    induction entries with
    | nil => exact absurd mem List.not_mem_nil
    | cons entry rest ih =>
        rw [depthOfEntries]
        rcases List.mem_cons.mp mem with rfl | inRest
        · exact Nat.le_max_left ..
        · exact Nat.le_trans (ih inRest) (Nat.le_max_right ..)
  rw [depth]
  omega

theorem depth_lt_of_mem_parts {arguments : List (String × Pattern)} {parts : List Pattern}
    (given : parts? arguments = some parts) {p : Pattern} (mem : p ∈ parts) :
    p.depth < (map arguments).depth := by
  have found : arguments.lookup "forAll" = some (sequence parts) := by
    rw [parts?] at given
    split at given
    · cases given
      assumption
    · cases given
  have list := depth_lt_of_mem_entries (Entries.mem_of_lookup_eq_some found)
  exact Nat.lt_trans (depth_lt_of_mem_items mem) list

/-- What holds of a pattern if it holds at the positions in it holds of every pattern. -/
@[elab_as_elim]
theorem position_induction {motive : Pattern → Prop} (null : motive null)
    (bool : ∀ b, motive (bool b)) (number : ∀ n, motive (number n))
    (string : ∀ s, motive (string s)) (regex : ∀ r, motive (regex r))
    (tester : ∀ t, motive (tester t))
    (fit : ∀ points, (∀ p ∈ points, motive p) → motive (sequence [sequence points]))
    (choice : ∀ members, (∀ points, members ≠ [sequence points]) → (∀ p ∈ members, motive p) →
      motive (sequence members))
    (fields : ∀ entries, schemaOf? entries = none → (∀ e ∈ entries, motive e.2) →
      motive (map entries))
    (schema : ∀ entries name, schemaOf? entries = some name →
      (∀ parts, parts? entries = some parts → ∀ p ∈ parts, motive p) → motive (map entries))
    (p : Pattern) : motive p := by
  induction p using (measure depth).wf.induction with
  | h p ih =>
    cases p with
    | null => exact null
    | bool b => exact bool b
    | number n => exact number n
    | string s => exact string s
    | regex r => exact regex r
    | tester t => exact tester t
    | sequence items =>
        by_cases isFit : ∃ points, items = [sequence points]
        · obtain ⟨points, rfl⟩ := isFit
          apply fit
          intro q mem
          -- The inner list is no position, so that a point is two levels down.
          have list := depth_lt_of_mem_items (List.mem_singleton.mpr (Eq.refl (sequence points)))
          exact ih q (Nat.lt_trans (depth_lt_of_mem_items mem) list)
        · apply choice items fun points same => isFit ⟨points, same⟩
          intro q mem
          exact ih q (depth_lt_of_mem_items mem)
    | map entries =>
        cases named : schemaOf? entries with
        | none => exact fields entries named fun e mem => ih e.2 (depth_lt_of_mem_entries mem)
        | some name =>
            apply schema entries name named
            intro parts given q mem
            exact ih q (depth_lt_of_mem_parts given mem)

/-- A pattern stands at a position, at any depth, of another. The parts of `and` are positions
unless a schema of that name is registered. -/
inductive Reaches (k : Knowledge) : Pattern → Pattern → Prop where
  | here (p : Pattern) : Reaches k p p
  | member {members : List Pattern} {p q : Pattern}
      (notFit : ∀ points, members ≠ [sequence points]) (mem : p ∈ members)
      (inner : Reaches k p q) : Reaches k (sequence members) q
  | point {points : List Pattern} {p q : Pattern} (mem : p ∈ points) (inner : Reaches k p q) :
      Reaches k (sequence [sequence points]) q
  | field {entries : List (String × Pattern)} {e : String × Pattern} {q : Pattern}
      (plain : schemaOf? entries = none) (mem : e ∈ entries) (inner : Reaches k e.2 q) :
      Reaches k (map entries) q
  | part {entries : List (String × Pattern)} {parts : List Pattern} {p q : Pattern}
      (builtIn : k.object? "and" = none) (schema : schemaOf? entries = some "and")
      (given : parts? entries = some parts) (mem : p ∈ parts) (inner : Reaches k p q) :
      Reaches k (map entries) q

end Semblance.Pattern
