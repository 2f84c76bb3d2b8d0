import Semblance.Proofs.Expr.Completeness
import Semblance.Proofs.Expr.Limit
import Semblance.Proofs.Expr.Soundness

/-!
# The parser and the grammar agree

The tokens that the parser accepts are those that derive an expression, as far as the limits allow,
and the tree it returns is the only one they derive.
-/

namespace Semblance.Expr

/-- An expression, however deep, is parsed or refused for its depth. -/
theorem parseWithin_of_derives_or_refused {limit h : Nat} {tokens : List Token} {e : Expr}
    (derives : Derives .expression h tokens e) :
    parseWithin limit tokens = .ok e ∨
      parseWithin limit tokens = .error (.limit .expressionDepth) := by
  have parsed := parseExpression_of_derives derives (Nat.le_max_left h limit)
  have narrower := isNarrower (Nat.le_max_right h limit) (parserFuel tokens)
  rw [parseWithin]
  rcases narrower.expression ⟨tokens, 0⟩ with same | refused
  · rw [same, parsed, ok_bind]
    dsimp only [List.isEmpty_nil]
    rw [if_pos rfl]
    by_cases shallow : e.isWithinDepth limit = true
    · exact .inl (if_pos shallow)
    · exact .inr (if_neg shallow)
  · rw [refused]
    exact .inr rfl

/-- Tokens are parsed into a tree exactly when they derive it and neither the nesting of the
derivation nor the depth of the tree exceeds the limit. However deep a derivation is, its tree is
the only one that its tokens derive, and they are refused for nothing but the depth. -/
theorem parse_eq_ok_iff_derives (tokens : List Token) (e : Expr) :
    (parse tokens = .ok e ↔
      Derives .expression maxExpressionDepth tokens e ∧ e.depth ≤ maxExpressionDepth) ∧
      ∀ h, Derives .expression h tokens e →
        (parse tokens = .ok e ∨ parse tokens = .error (.limit .expressionDepth)) ∧
        ∀ k other, Derives .expression k tokens other → e = other := by
  refine ⟨⟨?_, ?_⟩, ?_⟩
  · intro parsed
    exact derives_of_parseWithin parsed
  · rintro ⟨derives, shallow⟩
    exact parseWithin_of_derives derives (Nat.le_refl _) shallow
  · intro h derives
    refine ⟨parseWithin_of_derives_or_refused derives, ?_⟩
    intro k other otherDerives
    exact derives.unique otherDerives

/-- A product binds tighter than a sum, and there is no other reading. -/
theorem derives_sum_of_product :
    let tokens : List Token := [⟨.identifier "a", 0⟩, ⟨.punct .plus, 2⟩, ⟨.identifier "b", 4⟩,
      ⟨.punct .star, 6⟩, ⟨.identifier "c", 8⟩]
    let tree : Expr := .binary .add (.identifier "a")
      (.binary .mul (.identifier "b") (.identifier "c"))
    Derives .expression maxExpressionDepth tokens tree ∧
      ∀ k other, Derives .expression k tokens other → tree = other := by
  intro tokens tree
  have parsed : parse tokens = .ok tree := by
    have expression : parseExpression maxExpressionDepth (parserFuel tokens) ⟨tokens, 0⟩ =
        .ok (tree, ⟨[], 0⟩) := rfl
    rw [parse, parseWithin, expression, ok_bind]
    dsimp only [List.isEmpty_nil]
    rw [if_pos rfl, if_pos ((isWithinDepth_iff maxExpressionDepth tree).mpr (by decide))]
    rfl
  have derives := ((parse_eq_ok_iff_derives tokens tree).1.mp parsed).1
  exact ⟨derives, ((parse_eq_ok_iff_derives tokens tree).2 _ derives).2⟩

end Semblance.Expr
