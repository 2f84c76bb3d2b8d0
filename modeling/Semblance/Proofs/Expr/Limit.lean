import Semblance.Expr.Parser

/-!
# What the limit does to the parser

The limit takes part in nothing but the refusal to nest deeper. So a parser with a smaller limit
comes to the same result as one with a wider limit, or else it refuses.
-/

namespace Semblance.Expr

open ParserState

/-- The same result, unless the nesting is refused. -/
def Refines {α : Type} (narrow wide : Except CompileError α) : Prop :=
  narrow = wide ∨ narrow = .error (.limit .expressionDepth)

theorem Refines.refl {α : Type} (x : Except CompileError α) : Refines x x := .inl rfl

theorem Refines.bind {α β : Type} {x y : Except CompileError α} {f g : α → Except CompileError β}
    (first : Refines x y) (next : ∀ a, Refines (f a) (g a)) : Refines (x >>= f) (y >>= g) := by
  rcases first with rfl | refused
  · cases x with
    | error error => exact .refl _
    | ok a => exact next a
  · rw [refused]
    exact .inr rfl

variable {limit wider : Nat}

theorem refines_enter (within : limit ≤ wider) (s : ParserState) :
    Refines (s.enter limit) (s.enter wider) := by
  rw [enter, enter]
  by_cases deep : limit < s.depth + 1
  · exact .inr (if_pos deep)
  · rw [if_neg deep, if_neg (by omega)]
    exact .refl _

/-- Each parser refines the one with a wider limit. -/
structure IsNarrower (limit wider fuel : Nat) : Prop where
  expression : ∀ s, Refines (parseExpression limit fuel s) (parseExpression wider fuel s)
  conditional : ∀ s, Refines (parseConditional limit fuel s) (parseConditional wider fuel s)
  levels : ∀ ls s, Refines (parseLevels limit fuel ls s) (parseLevels wider fuel ls s)
  chain : ∀ level tighter left s, Refines (parseChain limit fuel level tighter left s)
    (parseChain wider fuel level tighter left s)
  unary : ∀ s, Refines (parseUnary limit fuel s) (parseUnary wider fuel s)
  suffixed : ∀ s, Refines (parsePostfix limit fuel s) (parsePostfix wider fuel s)
  suffixes : ∀ e s, Refines (parseSuffixes limit fuel e s) (parseSuffixes wider fuel e s)
  items : ∀ close expected s, Refines (parseItems limit fuel close expected s)
    (parseItems wider fuel close expected s)
  entries : ∀ s, Refines (parseEntries limit fuel s) (parseEntries wider fuel s)
  primary : ∀ s, Refines (parsePrimary limit fuel s) (parsePrimary wider fuel s)

theorem IsNarrower.zero (limit wider : Nat) : IsNarrower limit wider 0 := by
  constructor <;> intros <;> exact .refl _

theorem IsNarrower.succ {fuel : Nat} (within : limit ≤ wider)
    (narrower : IsNarrower limit wider fuel) : IsNarrower limit wider (fuel + 1) where
  expression s := by
    rw [parseExpression, parseExpression]
    exact .bind (refines_enter within s) fun s => .bind (narrower.conditional s) fun r => .refl _
  conditional s := by
    rw [parseConditional, parseConditional]
    refine .bind (narrower.levels _ s) fun r => ?_
    dsimp only
    cases r.2.eat? .question with
    | none => exact .refl _
    | some s =>
        exact .bind (narrower.expression s) fun r => .bind (.refl _) fun s =>
          .bind (narrower.expression s) fun r => .refl _
  levels ls s := by
    cases ls with
    | nil =>
        rw [parseLevels, parseLevels]
        exact narrower.unary s
    | cons level tighter =>
        rw [parseLevels, parseLevels]
        exact .bind (narrower.levels tighter s) fun r => narrower.chain level tighter r.1 r.2
  chain level tighter left s := by
    rw [parseChain, parseChain]
    cases level.next? s with
    | none => exact .refl _
    | some op =>
        exact .bind (narrower.levels tighter s.advance) fun r =>
          narrower.chain level tighter (op.apply left r.1) r.2
  unary s := by
    rw [parseUnary, parseUnary]
    cases unaryOperator? s.peekPunct with
    | none => exact narrower.suffixed s
    | some op =>
        exact .bind (refines_enter within s.advance) fun s => .bind (narrower.unary s) fun r =>
          .refl _
  suffixed s := by
    rw [parsePostfix, parsePostfix]
    exact .bind (narrower.primary s) fun r => narrower.suffixes r.1 r.2
  suffixes e s := by
    unfold parseSuffixes
    split
    · split
      · exact narrower.suffixes _ _
      · exact .refl _
    · exact .bind (narrower.expression s.advance) fun r => .bind (.refl _) fun s =>
        narrower.suffixes (.member e r.1) s
    · split
      · rename_i function
        exact .bind (narrower.items .rightParen "')'" s.advance) fun r =>
          narrower.suffixes (.call function r.1) r.2
      · exact .refl _
    · exact .refl _
  items close expected s := by
    rw [parseItems, parseItems]
    cases s.eat? close with
    | some s => exact .refl _
    | none =>
        refine .bind (narrower.expression s) fun r => ?_
        dsimp only
        cases r.2.eat? .comma with
        | some s => exact .bind (narrower.items close expected s) fun r => .refl _
        | none => exact .refl _
  entries s := by
    rw [parseEntries, parseEntries]
    cases s.eat? .rightBrace with
    | some s => exact .refl _
    | none =>
        dsimp only
        split
        · exact .refl _
        · refine .bind (.refl _) fun s => .bind (narrower.expression s) fun r => ?_
          cases r.2.eat? .comma with
          | some s => exact .bind (narrower.entries s) fun r => .refl _
          | none => exact .refl _
  primary s := by
    rw [parsePrimary, parsePrimary]
    split
    · exact .refl _
    · split
      · exact .refl _
      · exact .refl _
      · split <;> exact .refl _
      · exact .bind (narrower.expression s.advance) fun r => .refl _
      · exact .bind (refines_enter within s.advance) fun s =>
          .bind (narrower.items .rightBracket "']'" s) fun r => .refl _
      · exact .bind (refines_enter within s.advance) fun s =>
          .bind (narrower.entries s) fun r => .refl _
      · exact .refl _

theorem isNarrower (within : limit ≤ wider) (fuel : Nat) : IsNarrower limit wider fuel := by
  induction fuel with
  | zero => exact .zero limit wider
  | succ fuel ih => exact ih.succ within

end Semblance.Expr
