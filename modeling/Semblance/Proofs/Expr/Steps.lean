import Semblance.Proofs.Expr.Grammar

/-!
# The steps of the parser

What it takes for each step on the parser's state to succeed, and the parser of each phrase.
-/

namespace Semblance.Expr

theorem ok_bind {ε α β : Type} (a : α) (f : α → Except ε β) : ((.ok a : Except ε α) >>= f) = f a :=
  rfl

theorem bind_eq_ok_iff {ε α β : Type} {x : Except ε α} {f : α → Except ε β} {b : β} :
    (x >>= f) = .ok b ↔ ∃ a, x = .ok a ∧ f a = .ok b := by
  cases x with
  | error e => exact ⟨nofun, by rintro ⟨a, failed, -⟩; cases failed⟩
  | ok a =>
      constructor
      · intro result
        exact ⟨a, rfl, result⟩
      · rintro ⟨_, same, result⟩
        cases same
        exact result

namespace ParserState

variable {s t : ParserState} {mark : Punct}

theorem peekPunct_eq_some_iff :
    s.peekPunct = some mark ↔ ∃ i, s.tokens = ⟨.punct mark, i⟩ :: s.advance.tokens := by
  obtain ⟨tokens, depth⟩ := s
  rw [peekPunct, advance]
  cases tokens with
  | nil => simp
  | cons token rest =>
      obtain ⟨kind, offset⟩ := token
      cases kind <;> simp

theorem advance_cons (token : Token) (tokens : List Token) (depth : Nat) :
    advance ⟨token :: tokens, depth⟩ = ⟨tokens, depth⟩ :=
  rfl

theorem eat?_eq_some_iff :
    s.eat? mark = some t ↔ ∃ i, s.tokens = ⟨.punct mark, i⟩ :: t.tokens ∧ t.depth = s.depth := by
  rw [eat?]
  constructor
  · intro eaten
    split at eaten
    · rename_i next
      obtain ⟨i, shape⟩ := peekPunct_eq_some_iff.mp next
      cases eaten
      exact ⟨i, shape, rfl⟩
    · cases eaten
  · rintro ⟨i, shape, depth⟩
    obtain ⟨tokens, d⟩ := s
    obtain ⟨rest, d'⟩ := t
    subst shape
    subst depth
    exact if_pos rfl

theorem expect_eq_ok_iff {expected : String} :
    s.expect mark expected = .ok t ↔
      ∃ i, s.tokens = ⟨.punct mark, i⟩ :: t.tokens ∧ t.depth = s.depth := by
  rw [← eat?_eq_some_iff, expect]
  cases s.eat? mark <;> simp

theorem enter_eq_ok_iff {limit : Nat} :
    s.enter limit = .ok t ↔ s.depth < limit ∧ t.tokens = s.tokens ∧ t.depth = s.depth + 1 := by
  obtain ⟨tokens, d⟩ := s
  obtain ⟨rest, d'⟩ := t
  rw [enter]
  split
  · rename_i deep
    exact ⟨nofun, fun entered => absurd entered.1 (by dsimp only at deep ⊢; omega)⟩
  · rename_i shallow
    simp only [Except.ok.injEq, mk.injEq]
    constructor
    · rintro ⟨rfl, rfl⟩
      exact ⟨by dsimp only at shallow; omega, rfl, rfl⟩
    · rintro ⟨-, rfl, rfl⟩
      exact ⟨rfl, rfl⟩

end ParserState

/-- What is said where the closing bracket is missing. -/
def Bracket.closingText : Bracket → String
  | round => "')'"
  | square => "']'"

/-- The parser of a phrase. -/
def Phrase.parser (limit : Nat) :
    (p : Phrase) → Nat → ParserState → Except CompileError (p.Tree × ParserState)
  | expression => parseExpression limit
  | conditional => parseConditional limit
  | chain level => fun fuel => parseLevels limit fuel (levels.drop level)
  | unary => parseUnary limit
  | suffixed => parsePostfix limit
  | primary => parsePrimary limit
  | items bracket => fun fuel => parseItems limit fuel bracket.closing bracket.closingText
  | entries => parseEntries limit

end Semblance.Expr
