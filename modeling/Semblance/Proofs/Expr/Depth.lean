import Semblance.Expr.Tree

/-!
# The walk measures the depth

The walk over pending subtrees comes to the same answer as the depth of the tree.
-/

namespace Semblance.Expr

theorem depthEntries_eq (entries : List (String × Expr)) :
    depthEntries entries = depthItems (entries.map Prod.snd) := by
  induction entries with
  | nil => rfl
  | cons entry rest ih => rw [depthEntries, List.map_cons, depthItems, ih]

theorem depth_eq (e : Expr) : e.depth = 1 + depthItems e.children := by
  cases e <;> simp only [depth, children, depthItems, depthEntries_eq] <;> omega

theorem depthItems_le_iff {items : List Expr} {bound : Nat} :
    depthItems items ≤ bound ↔ ∀ item ∈ items, item.depth ≤ bound := by
  induction items with
  | nil => simp [depthItems]
  | cons item rest ih => rw [depthItems, Nat.max_le, ih, List.forall_mem_cons]

theorem walkWithin_iff (limit : Nat) (pending : List (Expr × Nat)) :
    walkWithin limit pending = true ↔ ∀ p ∈ pending, p.1.depth + p.2 ≤ limit + 1 := by
  fun_induction walkWithin limit pending with
  | case1 => simp
  | case2 e level rest deep =>
      rw [List.forall_mem_cons]
      have root := depth_eq e
      refine iff_of_false Bool.false_ne_true fun all => ?_
      have bound := all.1
      dsimp only at bound
      omega
  | case3 e level rest shallow ih =>
      -- The root is replaced by its children, which lie one level deeper.
      rw [ih, List.forall_mem_append, List.forall_mem_cons, depth_eq e]
      refine and_congr_left fun _ => ?_
      constructor
      · intro below
        have bound : depthItems e.children ≤ limit - level := by
          rw [depthItems_le_iff]
          intro child mem
          have deepest := below (child, level + 1) (List.mem_map_of_mem mem)
          dsimp only at deepest
          omega
        dsimp only
        omega
      · intro bound p mem
        obtain ⟨child, inChildren, rfl⟩ := List.mem_map.mp mem
        dsimp only at bound ⊢
        have deepest := depthItems_le_iff.mp (Nat.le_refl _) child inChildren
        omega

/-- A tree is within a depth when its own depth is. -/
theorem isWithinDepth_iff (limit : Nat) (e : Expr) :
    e.isWithinDepth limit = true ↔ e.depth ≤ limit := by
  rw [isWithinDepth, walkWithin_iff, List.forall_mem_singleton]
  dsimp only
  omega

end Semblance.Expr
