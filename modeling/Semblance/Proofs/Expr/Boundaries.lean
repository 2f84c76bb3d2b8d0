import Semblance.Proofs.Expr.Steps

/-!
# Where phrases begin and end

The parser looks one token ahead. By that token it can tell an operand from the mark before it, an
expression from a closing bracket, and what goes on with a phrase from what follows it: the marks
that go on with a phrase are told apart by how tightly they bind.
-/

namespace Semblance.Expr

open ParserState

/-! ## What ends a phrase -/

/-- How tightly a mark binds what stands before it. Other marks bind nothing. -/
def Punct.rank : Punct → Nat
  | question => 1
  | coalesce => 2
  | or => 3
  | and => 4
  | equal | same | notEqual | notSame => 5
  | less | lessEqual | greater | greaterEqual => 6
  | plus | minus => 7
  | star | slash | percent => 8
  | dot | leftBracket | leftParen => 9
  | rightParen | rightBracket | leftBrace | rightBrace | comma | colon | not => 0

def nextRank : List Token → Nat
  | ⟨.punct mark, _⟩ :: _ => mark.rank
  | _ => 0

/-- The least rank of the marks that go on with a phrase. -/
def Phrase.tightness : Phrase → Nat
  | expression | conditional => 1
  | chain level => min (level + 2) 9
  | unary | suffixed => 9
  | primary | items _ | entries => 10

/-- What follows does not go on with the phrase. -/
def Ends (p : Phrase) (rest : List Token) : Prop := nextRank rest < p.tightness

theorem BinaryMark.rank_eq {level : Nat} {mark : Punct} {op : Operator}
    (stands : BinaryMark level mark op) : mark.rank = level + 2 ∧ level < 7 := by
  cases stands <;> exact ⟨rfl, by decide⟩

theorem peekPunct_rank {rest : List Token} {depth : Nat} {mark : Punct}
    (next : peekPunct ⟨rest, depth⟩ = some mark) : nextRank rest = mark.rank := by
  obtain ⟨i, shape⟩ := peekPunct_eq_some_iff.mp next
  rw [show rest = _ from shape]
  rfl

theorem eat?_eq_none {rest : List Token} {depth : Nat} {mark : Punct}
    (other : nextRank rest ≠ mark.rank) : eat? ⟨rest, depth⟩ mark = none := by
  rw [eat?, if_neg]
  intro next
  exact other (peekPunct_rank next)

theorem next?_eq_none {n : Nat} {level : Level} {tighter : List Level} {rest : List Token}
    {depth : Nat} (here : levels.drop n = level :: tighter) (ends : Ends (.chain n) rest) :
    level.next? ⟨rest, depth⟩ = none := by
  rw [Level.next?, Option.bind_eq_none_iff]
  intro mark next
  cases found : level.lookup mark with
  | none => rfl
  | some op =>
      obtain ⟨rank, inside⟩ := ((lookup_levels_iff here).mp found).rank_eq
      rw [Ends, peekPunct_rank next, rank, Phrase.tightness] at ends
      omega

/-! ## What begins a phrase -/

/-- There is a first token, and if it is a mark, it is one of some marks. -/
def StartsWith (marks : Punct → Prop) (ts : List Token) : Prop :=
  ∃ kind i more, ts = ⟨kind, i⟩ :: more ∧ ∀ mark, kind = .punct mark → marks mark

theorem StartsWith.append {marks : Punct → Prop} {ts : List Token} (starts : StartsWith marks ts)
    (us : List Token) : StartsWith marks (ts ++ us) := by
  obtain ⟨kind, i, more, rfl, first⟩ := starts
  exact ⟨kind, i, more ++ us, rfl, first⟩

theorem StartsWith.imp {marks others : Punct → Prop} {ts : List Token}
    (starts : StartsWith marks ts) (weaken : ∀ mark, marks mark → others mark) :
    StartsWith others ts := by
  obtain ⟨kind, i, more, rfl, first⟩ := starts
  exact ⟨kind, i, more, rfl, fun mark same => weaken mark (first mark same)⟩

theorem startsWith_mark {marks : Punct → Prop} {mark : Punct} (begins : marks mark) (i : Nat)
    (ts : List Token) : StartsWith marks (⟨.punct mark, i⟩ :: ts) := by
  refine ⟨_, i, ts, rfl, fun other same => ?_⟩
  cases same
  exact begins

/-- The marks with which a phrase may begin. -/
def Phrase.Begins : Phrase → Punct → Prop
  | suffixed, mark | primary, mark =>
      mark = .leftParen ∨ mark = .leftBracket ∨ mark = .leftBrace
  | expression, mark | conditional, mark | chain _, mark | unary, mark =>
      (mark = .leftParen ∨ mark = .leftBracket ∨ mark = .leftBrace) ∨ ∃ op, UnaryMark mark op
  | items _, _ | entries, _ => True

theorem Derives.begins {p : Phrase} {h : Nat} {ts : List Token} {e : p.Tree}
    (derives : Derives p h ts e) : StartsWith p.Begins ts := by
  induction derives with
  | expression _ ih => exact ih
  | unconditional _ ih => exact ih
  | conditional _ _ _ ih _ _ => exact (ih.append _).append _
  | single _ _ ih => exact ih
  | joined _ _ _ ih _ => exact ih.append _
  | operand _ _ ih => exact ih
  | unmarked _ ih => exact ih.imp fun mark => .inl
  | marked mark _ _ => exact startsWith_mark (.inr ⟨_, mark⟩) _ _
  | primary _ ih => exact ih
  | member _ ih => exact ih.append _
  | index _ _ ih _ => exact (ih.append _).append _
  | call _ _ ih _ => exact ih.append _
  | number => exact ⟨_, _, _, rfl, nofun⟩
  | string => exact ⟨_, _, _, rfl, nofun⟩
  | word _ => exact ⟨_, _, _, rfl, nofun⟩
  | identifier _ => exact ⟨_, _, _, rfl, nofun⟩
  | grouped _ _ => exact startsWith_mark (.inl rfl) _ _
  | array _ _ => exact startsWith_mark (.inr (.inl rfl)) _ _
  | object _ _ => exact startsWith_mark (.inr (.inr rfl)) _ _
  | noItem => exact startsWith_mark trivial _ _
  | lastItem _ ih => exact (ih.append _).imp fun _ _ => trivial
  | item _ _ ih _ => exact (ih.append _).imp fun _ _ => trivial
  | noEntry => exact startsWith_mark trivial _ _
  | lastEntry _ _ _ => exact ⟨_, _, _, rfl, fun _ _ => trivial⟩
  | entry _ _ _ _ _ => exact ⟨_, _, _, rfl, fun _ _ => trivial⟩

theorem Derives.begins_of_peekPunct {p : Phrase} {h : Nat} {ts rest : List Token} {e : p.Tree}
    {depth : Nat} {mark : Punct} (derives : Derives p h ts e)
    (next : peekPunct ⟨ts ++ rest, depth⟩ = some mark) : p.Begins mark := by
  obtain ⟨kind, i, more, rfl, begins⟩ := derives.begins
  obtain ⟨j, shape⟩ := peekPunct_eq_some_iff.mp next
  cases shape
  exact begins mark rfl

/-- An operand without a mark is not taken for one with a mark. -/
theorem Derives.unaryOperator?_eq_none {h : Nat} {ts rest : List Token} {e : Expr} {depth : Nat}
    (derives : Derives .suffixed h ts e) :
    unaryOperator? (peekPunct ⟨ts ++ rest, depth⟩) = none := by
  cases next : peekPunct ⟨ts ++ rest, depth⟩ with
  | none => rfl
  | some mark =>
      rcases derives.begins_of_peekPunct next with rfl | rfl | rfl
      · rfl
      · rfl
      · rfl

/-- An expression is not taken for a closing bracket. -/
theorem Derives.eat?_closing_eq_none {h : Nat} {ts rest : List Token} {e : Expr} {depth : Nat}
    (derives : Derives .expression h ts e) (bracket : Bracket) :
    eat? ⟨ts ++ rest, depth⟩ bracket.closing = none := by
  rw [eat?, if_neg]
  intro next
  rcases derives.begins_of_peekPunct next with (same | same | same) | ⟨op, mark⟩
  · cases bracket <;> cases same
  · cases bracket <;> cases same
  · cases bracket <;> cases same
  · cases bracket <;> cases mark

end Semblance.Expr
