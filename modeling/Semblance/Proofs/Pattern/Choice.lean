import Semblance.Pattern.Compile
import Semblance.Proofs.Matcher.LiteralSet
import Semblance.Proofs.Traversal

/-!
# Choices among patterns

A list that is not one list within another is a choice of its members. That literals are collected
in a set cannot be seen: the choice compiles when its members do, and it accepts what one of them
accepts.
-/

namespace Semblance.Pattern

/-- A list of patterns is a choice of its members for a compiler. -/
structure IsChoice (compile : Compiler) (members : List Pattern) : Prop where
  /-- It compiles when all members do. -/
  ok_iff : (∃ m, compile (.sequence members) = .ok m) ↔ ∀ p ∈ members, ∃ m, compile p = .ok m
  /-- Else its error is the one of the first member that does not. -/
  error_iff : ∀ error, compile (.sequence members) = .error error ↔
    ∃ before p after, members = before ++ p :: after ∧ (∀ q ∈ before, ∃ m, compile q = .ok m) ∧
      compile p = .error error
  /-- It accepts what some member on its own accepts. -/
  test_iff : ∀ choice, compile (.sequence members) = .ok choice → ∀ v,
    choice.test v = true ↔ ∃ p ∈ members, ∃ m, compile p = .ok m ∧ m.test v = true

theorem compileWith_sequence (k : Knowledge) (nested : Compiler) {members : List Pattern}
    (notFit : ∀ points, members ≠ [.sequence points]) :
    compileWith k nested (.sequence members) =
      (members.mapM (compileWith k nested)).map .ofAlternatives := by
  rw [compileWith, compileItems_eq_mapM]
  · cases members.mapM (compileWith k nested) <;> rfl
  · exact notFit

/-- What compiles a list by compiling its members in order makes a choice of them. -/
theorem isChoice_of_eq_mapM {compile : Compiler} {members : List Pattern}
    (whole : compile (.sequence members) = (members.mapM compile).map .ofAlternatives) :
    IsChoice compile members := by
  constructor
  · rw [whole, ← Traversal.exists_mapM_eq_ok_iff]
    cases members.mapM compile <;> simp [Except.map]
  · intro error
    rw [whole, ← Traversal.mapM_eq_error_iff]
    cases members.mapM compile <;> simp [Except.map]
  · intro choice ok v
    rw [whole] at ok
    cases results : members.mapM compile with
    | error e =>
        rw [results] at ok
        cases ok
    | ok ms =>
        rw [results] at ok
        cases ok
        rw [Matcher.test_ofAlternatives]
        -- The matchers are those of the members, so it does not matter which of the two are asked.
        simp only [Traversal.mem_iff_of_mapM_eq_ok results]
        constructor
        · rintro ⟨m, ⟨p, mem, compiled⟩, accepts⟩
          exact ⟨p, mem, m, compiled, accepts⟩
        · rintro ⟨p, mem, m, compiled, accepts⟩
          exact ⟨m, ⟨p, mem, compiled⟩, accepts⟩

theorem isChoice_compileWithin (k : Knowledge) (levels : Nat) {members : List Pattern}
    (notFit : ∀ points, members ≠ [.sequence points]) :
    IsChoice (compileWithin k levels) members := by
  cases levels with
  | zero => exact isChoice_of_eq_mapM (compileWith_sequence k _ notFit)
  | succ levels => exact isChoice_of_eq_mapM (compileWith_sequence k _ notFit)

/-! ## Patterns that are checked for depth -/

theorem depth_le_depthOfItems {p : Pattern} {items : List Pattern} (mem : p ∈ items) :
    p.depth ≤ depthOfItems items := by
  induction items with
  | nil => exact absurd mem List.not_mem_nil
  | cons item rest ih =>
      rw [depthOfItems]
      rcases List.mem_cons.mp mem with rfl | inRest
      · exact Nat.le_max_left ..
      · exact Nat.le_trans (ih inRest) (Nat.le_max_right ..)

theorem compile_of_depth_le (k : Knowledge) {p : Pattern} (shallow : p.depth ≤ maxPatternDepth) :
    compile k p = compileUnchecked k p := by
  rw [compile, checked, checkPatternDepth, if_neg (Nat.not_lt.mpr shallow)]

theorem compile_of_lt_depth (k : Knowledge) {p : Pattern} (deep : maxPatternDepth < p.depth) :
    compile k p = .error (.limit (.patternDepth p.depth)) := by
  rw [compile, checked, checkPatternDepth, if_pos deep]

/-- A list that is not too deep has members that are not either, so that no check tells. -/
theorem isChoice_compile (k : Knowledge) {members : List Pattern}
    (notFit : ∀ points, members ≠ [.sequence points])
    (shallow : depth (.sequence members) ≤ maxPatternDepth) : IsChoice (compile k) members := by
  have each (p : Pattern) (mem : p ∈ members) : compileUnchecked k p = compile k p := by
    rw [depth] at shallow
    have lower := depth_le_depthOfItems mem
    exact (compile_of_depth_le k (by omega)).symm
  apply isChoice_of_eq_mapM
  rw [compile_of_depth_le k shallow, ← Traversal.mapM_congr each]
  exact compileWith_sequence k _ notFit

/-- A list is a choice of its members wherever it stands: at any nesting of schemas, and as a whole
pattern, unless it is rejected for its depth before anything is compiled. -/
theorem sequence_isChoice (k : Knowledge) (members : List Pattern)
    (notFit : ∀ points, members ≠ [.sequence points]) :
    (∀ levels, IsChoice (compileWithin k levels) members) ∧
      (depth (.sequence members) ≤ maxPatternDepth → IsChoice (compile k) members) ∧
      (maxPatternDepth < depth (.sequence members) → compile k (.sequence members) =
        .error (.limit (.patternDepth (depth (.sequence members))))) := by
  refine ⟨?_, ?_, compile_of_lt_depth k⟩
  · intro levels
    exact isChoice_compileWithin k levels notFit
  · intro shallow
    exact isChoice_compile k notFit shallow

/-- A schema of the caller may make a literal that no set can hold. -/
theorem sequence_isChoice_pair :
    let pair : StringSchema := fun _ _ => .ok (.equal (.array [.ofNat 1, .ofNat 2]))
    let members : List Pattern := [.string "Pair:x", .number (.ofNat 3), .null]
    (∀ points, members ≠ [.sequence points]) ∧ depth (.sequence members) ≤ maxPatternDepth ∧
      IsChoice (compile (Knowledge.empty.registerString "Pair" pair)) members := by
  intro pair members
  have notFit (points : List Pattern) : members ≠ [.sequence points] := by
    intro same
    simp [members] at same
  have shallow : depth (.sequence members) ≤ maxPatternDepth := by decide
  exact ⟨notFit, shallow, (sequence_isChoice _ members notFit).2.1 shallow⟩

end Semblance.Pattern
