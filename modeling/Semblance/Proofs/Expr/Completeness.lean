import Semblance.Proofs.Expr.Boundaries
import Semblance.Proofs.Expr.Depth

/-!
# The parser accepts every expression

The parser of a phrase takes the tokens that derive it from in front of anything that does not go on
with the phrase. A chain, and an operand with its members, indexes and calls, is read by a loop: it
is enough to see how the loop is reached after what has been derived so far. Sixteen calls for each
token are always enough fuel.
-/

namespace Semblance.Expr

open ParserState

/-- How many calls lead from a phrase to the first token. -/
def Phrase.calls : Phrase → Nat
  | primary | items _ | entries => 1
  | suffixed => 2
  | unary => 3
  | chain level => 4 + (7 - level)
  | conditional => 12
  | expression => 13

/-- With enough fuel and enough levels left, a phrase is read from in front of what ends it. -/
def Accepts (limit : Nat) (p : Phrase) (h : Nat) (ts : List Token) (e : p.Tree) : Prop :=
  ∀ ⦃fuel depth : Nat⦄ ⦃rest : List Token⦄, 16 * ts.length + p.calls ≤ fuel → depth + h ≤ limit →
    Ends p rest → p.parser limit fuel ⟨ts ++ rest, depth⟩ = .ok (e, ⟨rest, depth⟩)

/-- In front of what may go on with a chain, the loop of the chain is reached. -/
def ReachesChain (limit n h : Nat) (ts : List Token) (e : Expr) : Prop :=
  ∀ ⦃level : Level⦄ ⦃tighter : List Level⦄ ⦃fuel depth : Nat⦄ ⦃rest : List Token⦄,
    levels.drop n = level :: tighter → 16 * ts.length + (Phrase.chain n).calls ≤ fuel →
    depth + h ≤ limit → Ends (.chain (n + 1)) rest →
    ∃ left, fuel ≤ left + ts.length + 1 ∧
      parseLevels limit fuel (level :: tighter) ⟨ts ++ rest, depth⟩ =
        parseChain limit left level tighter e ⟨rest, depth⟩

/-- In front of anything, the loop over members, indexes and calls is reached. -/
def ReachesSuffixes (limit h : Nat) (ts : List Token) (e : Expr) : Prop :=
  ∀ ⦃fuel depth : Nat⦄ ⦃rest : List Token⦄, 16 * ts.length + Phrase.suffixed.calls ≤ fuel →
    depth + h ≤ limit →
    ∃ left, fuel ≤ left + ts.length + 1 ∧
      parsePostfix limit fuel ⟨ts ++ rest, depth⟩ = parseSuffixes limit left e ⟨rest, depth⟩

/-- What is said of phrases that are read by a loop. -/
def Reaches (limit : Nat) : (p : Phrase) → Nat → List Token → p.Tree → Prop
  | .chain n => ReachesChain limit n
  | .suffixed => ReachesSuffixes limit
  | .expression | .conditional | .unary | .primary | .items _ | .entries => fun _ _ _ => True

theorem exists_fuel {p : Phrase} {tokens fuel : Nat} (enough : 16 * tokens + p.calls ≤ fuel) :
    ∃ less, fuel = less + 1 := by
  have positive : 0 < p.calls := by
    cases p <;> rw [Phrase.calls] <;> omega
  exact ⟨fuel - 1, by omega⟩

/-- Each token pays for sixteen calls, so what is enough for a phrase is enough for a part of it
with fewer tokens, whatever the part is. -/
theorem enough_of_lt {p q : Phrase} {whole part fuel : Nat}
    (enough : 16 * whole + p.calls ≤ fuel + 1) (shorter : part < whole) :
    16 * part + q.calls ≤ fuel := by
  have most : q.calls ≤ 13 := by
    cases q <;> rw [Phrase.calls] <;> omega
  omega

theorem enter_eq_ok {limit depth : Nat} (tokens : List Token) (below : depth < limit) :
    enter limit ⟨tokens, depth⟩ = .ok ⟨tokens, depth + 1⟩ :=
  enter_eq_ok_iff.mpr ⟨below, rfl, rfl⟩

theorem eat?_eq_some (mark : Punct) (i : Nat) (tokens : List Token) (depth : Nat) :
    eat? ⟨⟨.punct mark, i⟩ :: tokens, depth⟩ mark = some ⟨tokens, depth⟩ :=
  eat?_eq_some_iff.mpr ⟨i, rfl, rfl⟩

theorem expect_eq_ok (mark : Punct) (i : Nat) (tokens : List Token) (depth : Nat)
    (expected : String) :
    expect ⟨⟨.punct mark, i⟩ :: tokens, depth⟩ mark expected = .ok ⟨tokens, depth⟩ :=
  expect_eq_ok_iff.mpr ⟨i, rfl, rfl⟩

theorem nextRank_le (rest : List Token) : nextRank rest ≤ 9 := by
  unfold nextRank
  split
  · rename_i mark _ _
    cases mark <;> decide
  · exact Nat.zero_le 9

theorem ends_primary (rest : List Token) : Ends .primary rest :=
  Nat.lt_succ_of_le (nextRank_le rest)

theorem ends_items (bracket : Bracket) (rest : List Token) : Ends (.items bracket) rest :=
  Nat.lt_succ_of_le (nextRank_le rest)

theorem ends_entries (rest : List Token) : Ends .entries rest :=
  Nat.lt_succ_of_le (nextRank_le rest)

variable {limit h n : Nat} {ts us vs : List Token} {i j : Nat}

/-! ## Expressions -/

theorem accepts_expression {e : Expr} (accepts : Accepts limit .conditional h ts e) :
    Accepts limit .expression (h + 1) ts e := by
  intro fuel depth rest enough within ends
  obtain ⟨fuel, rfl⟩ := exists_fuel enough
  change parseExpression limit (fuel + 1) _ = _
  rw [parseExpression, bind_eq_ok_iff]
  refine ⟨_, enter_eq_ok _ (by omega), bind_eq_ok_iff.mpr ⟨_, accepts ?_ ?_ ends, rfl⟩⟩
  · simp only [Phrase.calls] at enough ⊢
    omega
  · omega

theorem accepts_unconditional {e : Expr} (accepts : Accepts limit (.chain 0) h ts e) :
    Accepts limit .conditional h ts e := by
  intro fuel depth rest enough within ends
  obtain ⟨fuel, rfl⟩ := exists_fuel enough
  change parseConditional limit (fuel + 1) _ = _
  rw [parseConditional, bind_eq_ok_iff]
  rw [Ends, Phrase.tightness] at ends
  refine ⟨_, accepts ?_ within ?_, ?_⟩
  · simp only [Phrase.calls] at enough ⊢
    omega
  · rw [Ends, Phrase.tightness]
    omega
  · dsimp only
    rw [eat?_eq_none (by rw [Punct.rank]; omega)]
    rfl

theorem accepts_conditional {test consequent alternate : Expr}
    (testAccepts : Accepts limit (.chain 0) h ts test)
    (consequentAccepts : Accepts limit .expression h us consequent)
    (alternateAccepts : Accepts limit .expression h vs alternate) :
    Accepts limit .conditional h (ts ++ ⟨.punct .question, i⟩ :: us ++ ⟨.punct .colon, j⟩ :: vs)
      (.conditional test consequent alternate) := by
  intro fuel depth rest enough within ends
  obtain ⟨fuel, rfl⟩ := exists_fuel enough
  simp only [List.length_append, List.length_cons] at enough
  simp only [List.append_assoc, List.cons_append]
  change parseConditional limit (fuel + 1) _ = _
  rw [parseConditional, bind_eq_ok_iff]
  -- The question mark ends the chain, and the colon ends the consequent.
  refine ⟨_, testAccepts (enough_of_lt enough (by omega)) within (by decide : 1 < 2), ?_⟩
  dsimp only
  rw [eat?_eq_some]
  dsimp only
  have consequent := consequentAccepts (enough_of_lt enough (by omega)) within
    (show Ends .expression (⟨.punct .colon, j⟩ :: (vs ++ rest)) from Nat.zero_lt_one)
  have alternate := alternateAccepts (enough_of_lt enough (by omega)) within ends
  refine bind_eq_ok_iff.mpr ⟨_, consequent, ?_⟩
  refine bind_eq_ok_iff.mpr ⟨_, expect_eq_ok .colon j _ depth _, ?_⟩
  exact bind_eq_ok_iff.mpr ⟨_, alternate, rfl⟩

/-! ## Chains -/

/-- In front of what ends the chain, its loop stops. -/
theorem accepts_of_reachesChain {e : Expr} (inside : n < 7)
    (reaches : ReachesChain limit n h ts e) :
    Accepts limit (.chain n) h ts e ∧ Reaches limit (.chain n) h ts e := by
  refine ⟨?_, reaches⟩
  intro fuel depth rest enough within ends
  obtain ⟨level, here⟩ := drop_levels_eq_cons inside
  have endsTighter : Ends (.chain (n + 1)) rest := by
    rw [Ends, Phrase.tightness] at ends ⊢
    omega
  obtain ⟨left, bound, loop⟩ := reaches here enough within endsTighter
  obtain ⟨left, rfl⟩ : ∃ less, left = less + 1 := by
    rw [Phrase.calls] at enough
    exact ⟨left - 1, by omega⟩
  change parseLevels limit fuel (levels.drop n) _ = _
  rw [here, loop, parseChain, next?_eq_none here ends]

theorem reachesChain_single {e : Expr} (inside : n < 7)
    (accepts : Accepts limit (.chain (n + 1)) h ts e) : ReachesChain limit n h ts e := by
  intro level tighter fuel depth rest here enough within ends
  obtain ⟨fuel, rfl⟩ := exists_fuel enough
  have operandEnough : 16 * ts.length + (Phrase.chain (n + 1)).calls ≤ fuel := by
    simp only [Phrase.calls] at enough ⊢
    omega
  have operand := accepts operandEnough within ends
  change parseLevels limit fuel (levels.drop (n + 1)) _ = _ at operand
  refine ⟨fuel, by omega, ?_⟩
  rw [parseLevels, (drop_levels_succ here).2, operand]
  rfl

/-- After an operator of the level, the loop goes on with its right operand. -/
theorem reachesChain_joined {mark : Punct} {op : Operator} {left right : Expr}
    (stands : BinaryMark n mark op) (leftReaches : ReachesChain limit n h ts left)
    (rightAccepts : Accepts limit (.chain (n + 1)) h us right) :
    ReachesChain limit n h (ts ++ ⟨.punct mark, i⟩ :: us) (op.apply left right) := by
  intro level tighter fuel depth rest here enough within ends
  simp only [List.length_append, List.length_cons, Phrase.calls] at enough ⊢
  simp only [List.append_assoc, List.cons_append]
  -- The operator binds looser than the operand before it.
  obtain ⟨rank, inside⟩ := stands.rank_eq
  have operatorEnds : Ends (.chain (n + 1)) (⟨.punct mark, i⟩ :: (us ++ rest)) := by
    change mark.rank < min (n + 1 + 2) 9
    omega
  have leftEnough : 16 * ts.length + (Phrase.chain n).calls ≤ fuel := by
    simp only [Phrase.calls]
    omega
  obtain ⟨next, bound, loop⟩ := leftReaches here leftEnough within operatorEnds
  obtain ⟨next, rfl⟩ : ∃ less, next = less + 1 := ⟨next - 1, by omega⟩
  have operator : level.next? ⟨⟨.punct mark, i⟩ :: (us ++ rest), depth⟩ = some op :=
    (lookup_levels_iff here).mpr stands
  have rightEnough : 16 * us.length + (Phrase.chain (n + 1)).calls ≤ next := by
    simp only [Phrase.calls]
    omega
  have operand := rightAccepts rightEnough within ends
  change parseLevels limit next (levels.drop (n + 1)) _ = _ at operand
  refine ⟨next, by omega, ?_⟩
  rw [loop, parseChain, operator]
  dsimp only
  rw [advance_cons, (drop_levels_succ here).2, operand]
  rfl

theorem accepts_operand {e : Expr} (beyond : 7 ≤ n) (accepts : Accepts limit .unary h ts e) :
    Accepts limit (.chain n) h ts e := by
  intro fuel depth rest enough within ends
  obtain ⟨fuel, rfl⟩ := exists_fuel enough
  change parseLevels limit (fuel + 1) (levels.drop n) _ = _
  have operandEnough : 16 * ts.length + Phrase.unary.calls ≤ fuel := by
    simp only [Phrase.calls] at enough ⊢
    omega
  have operandEnds : Ends .unary rest := by
    simp only [Ends, Phrase.tightness] at ends ⊢
    omega
  rw [drop_levels_eq_nil beyond, parseLevels]
  exact accepts operandEnough within operandEnds

theorem reachesChain_operand {e : Expr} (beyond : 7 ≤ n) : ReachesChain limit n h ts e := by
  intro level tighter fuel depth rest here
  rw [drop_levels_eq_nil beyond] at here
  cases here

/-! ## Operands -/

theorem accepts_unmarked {e : Expr} (derives : Derives .suffixed h ts e)
    (accepts : Accepts limit .suffixed h ts e) : Accepts limit .unary h ts e := by
  intro fuel depth rest enough within ends
  obtain ⟨fuel, rfl⟩ := exists_fuel enough
  change parseUnary limit (fuel + 1) _ = _
  rw [parseUnary, derives.unaryOperator?_eq_none]
  refine accepts ?_ within ends
  simp only [Phrase.calls] at enough ⊢
  omega

theorem accepts_marked {mark : Punct} {op : UnaryOp} {e : Expr} (stands : UnaryMark mark op)
    (accepts : Accepts limit .unary h ts e) :
    Accepts limit .unary (h + 1) (⟨.punct mark, i⟩ :: ts) (.unary op e) := by
  intro fuel depth rest enough within ends
  obtain ⟨fuel, rfl⟩ := exists_fuel enough
  have operator : unaryOperator? (peekPunct ⟨⟨.punct mark, i⟩ :: (ts ++ rest), depth⟩) = some op :=
    unaryOperator?_eq_some_iff.mpr stands
  have below : depth < limit := by omega
  have operandWithin : depth + 1 + h ≤ limit := by omega
  have operand := accepts (enough_of_lt enough (Nat.lt_succ_self _)) operandWithin ends
  change parseUnary limit (fuel + 1) ⟨⟨.punct mark, i⟩ :: (ts ++ rest), depth⟩ = _
  rw [parseUnary, operator]
  dsimp only
  refine bind_eq_ok_iff.mpr ⟨_, enter_eq_ok _ below, ?_⟩
  exact bind_eq_ok_iff.mpr ⟨_, operand, rfl⟩

/-! ## Members, indexes and calls -/

theorem parseSuffixes_leftBracket (limit fuel : Nat) (e : Expr) (i : Nat) (tokens : List Token)
    (depth : Nat) :
    parseSuffixes limit (fuel + 1) e ⟨⟨.punct .leftBracket, i⟩ :: tokens, depth⟩ = (do
      let (property, s) ← parseExpression limit fuel ⟨tokens, depth⟩
      let s ← s.expect .rightBracket "']'"
      parseSuffixes limit fuel (.member e property) s) :=
  rfl

theorem parseSuffixes_leftParen (limit fuel : Nat) (function : String) (i : Nat)
    (tokens : List Token) (depth : Nat) :
    parseSuffixes limit (fuel + 1) (.identifier function)
        ⟨⟨.punct .leftParen, i⟩ :: tokens, depth⟩ = (do
      let (args, s) ← parseItems limit fuel .rightParen "')'" ⟨tokens, depth⟩
      parseSuffixes limit fuel (.call function args) s) :=
  rfl

theorem accepts_of_reachesSuffixes {e : Expr} (reaches : ReachesSuffixes limit h ts e) :
    Accepts limit .suffixed h ts e ∧ Reaches limit .suffixed h ts e := by
  refine ⟨?_, reaches⟩
  intro fuel depth rest enough within ends
  obtain ⟨left, bound, loop⟩ := reaches enough within
  obtain ⟨left, rfl⟩ : ∃ less, left = less + 1 := by
    rw [Phrase.calls] at enough
    exact ⟨left - 1, by omega⟩
  change parsePostfix limit fuel _ = _
  rw [Ends, Phrase.tightness] at ends
  rw [loop]
  -- A dot or an opening bracket would go on with the operand, but none follows.
  unfold parseSuffixes
  split
  · rename_i next
    rw [peekPunct_rank next, Punct.rank] at ends
    omega
  · rename_i next
    rw [peekPunct_rank next, Punct.rank] at ends
    omega
  · rename_i next
    rw [peekPunct_rank next, Punct.rank] at ends
    omega
  · rfl

theorem reachesSuffixes_primary {e : Expr} (accepts : Accepts limit .primary h ts e) :
    ReachesSuffixes limit h ts e := by
  intro fuel depth rest enough within
  obtain ⟨fuel, rfl⟩ := exists_fuel enough
  have operandEnough : 16 * ts.length + Phrase.primary.calls ≤ fuel := by
    simp only [Phrase.calls] at enough ⊢
    omega
  have operand := accepts operandEnough within (ends_primary rest)
  change parsePrimary limit fuel _ = _ at operand
  refine ⟨fuel, by omega, ?_⟩
  rw [parsePostfix, operand]
  rfl

theorem reachesSuffixes_member {e : Expr} {name : String}
    (reaches : ReachesSuffixes limit h ts e) :
    ReachesSuffixes limit h (ts ++ [⟨.punct .dot, i⟩, ⟨.identifier name, j⟩])
      (.member e (.literal (.string name))) := by
  intro fuel depth rest enough within
  simp only [List.length_append, List.length_cons, List.length_nil] at enough ⊢
  simp only [List.append_assoc, List.cons_append, List.nil_append]
  have leftEnough : 16 * ts.length + Phrase.suffixed.calls ≤ fuel := by omega
  obtain ⟨next, bound, loop⟩ := reaches leftEnough within
  obtain ⟨next, rfl⟩ : ∃ less, next = less + 1 := ⟨next - 1, by omega⟩
  refine ⟨next, by omega, ?_⟩
  rw [loop]
  rfl

theorem reachesSuffixes_index {e property : Expr} (reaches : ReachesSuffixes limit h ts e)
    (accepts : Accepts limit .expression h us property) :
    ReachesSuffixes limit h (ts ++ ⟨.punct .leftBracket, i⟩ :: us ++ [⟨.punct .rightBracket, j⟩])
      (.member e property) := by
  intro fuel depth rest enough within
  simp only [List.length_append, List.length_cons, List.length_nil, Phrase.calls] at enough ⊢
  simp only [List.append_assoc, List.cons_append, List.nil_append]
  have leftEnough : 16 * ts.length + Phrase.suffixed.calls ≤ fuel := by
    simp only [Phrase.calls]
    omega
  obtain ⟨next, bound, loop⟩ := reaches leftEnough within
  obtain ⟨next, rfl⟩ : ∃ less, next = less + 1 := ⟨next - 1, by omega⟩
  have innerEnough : 16 * us.length + Phrase.expression.calls ≤ next := by
    simp only [Phrase.calls]
    omega
  have inner := accepts innerEnough within
    (show Ends .expression (⟨.punct .rightBracket, j⟩ :: rest) from Nat.zero_lt_one)
  change parseExpression limit next _ = _ at inner
  refine ⟨next, by omega, ?_⟩
  rw [loop, parseSuffixes_leftBracket, inner, ok_bind]
  dsimp only
  rw [expect_eq_ok]
  rfl

theorem reachesSuffixes_call {function : String} {args : List Expr}
    (reaches : ReachesSuffixes limit h ts (.identifier function))
    (accepts : Accepts limit (.items .round) h us args) :
    ReachesSuffixes limit h (ts ++ ⟨.punct .leftParen, i⟩ :: us) (.call function args) := by
  intro fuel depth rest enough within
  simp only [List.length_append, List.length_cons, Phrase.calls] at enough ⊢
  simp only [List.append_assoc, List.cons_append]
  have leftEnough : 16 * ts.length + Phrase.suffixed.calls ≤ fuel := by
    simp only [Phrase.calls]
    omega
  obtain ⟨next, bound, loop⟩ := reaches leftEnough within
  obtain ⟨next, rfl⟩ : ∃ less, next = less + 1 := ⟨next - 1, by omega⟩
  have innerEnough : 16 * us.length + (Phrase.items .round).calls ≤ next := by
    simp only [Phrase.calls]
    omega
  have inner := accepts innerEnough within (ends_items .round rest)
  change parseItems limit next .rightParen "')'" _ = _ at inner
  refine ⟨next, by omega, ?_⟩
  rw [loop, parseSuffixes_leftParen, inner]
  rfl

/-! ## Primary expressions -/

theorem accepts_number {value : Float} :
    Accepts limit .primary h [⟨.number value, i⟩] (.literal (.ofFloat value)) := by
  intro fuel depth rest enough _ _
  obtain ⟨fuel, rfl⟩ := exists_fuel enough
  rfl

theorem accepts_string {value : String} :
    Accepts limit .primary h [⟨.string value, i⟩] (.literal (.string value)) := by
  intro fuel depth rest enough _ _
  obtain ⟨fuel, rfl⟩ := exists_fuel enough
  rfl

theorem accepts_word {name : String} {value : Value} (word : WordLiteral name value) :
    Accepts limit .primary h [⟨.identifier name, i⟩] (.literal value) := by
  intro fuel depth rest enough _ _
  obtain ⟨fuel, rfl⟩ := exists_fuel enough
  cases word <;> rfl

theorem accepts_identifier {name : String} (noWord : ∀ value, ¬ WordLiteral name value) :
    Accepts limit .primary h [⟨.identifier name, i⟩] (.identifier name) := by
  intro fuel depth rest enough _ _
  obtain ⟨fuel, rfl⟩ := exists_fuel enough
  have none : wordLiteral? name = none := by
    cases found : wordLiteral? name with
    | none => rfl
    | some value => exact absurd (wordLiteral?_eq_some_iff.mp found) (noWord value)
  change parsePrimary limit (fuel + 1) ⟨⟨.identifier name, i⟩ :: rest, depth⟩ = _
  rw [parsePrimary]
  dsimp only
  rw [none]
  rfl

theorem accepts_grouped {e : Expr} (accepts : Accepts limit .expression h ts e) :
    Accepts limit .primary h (⟨.punct .leftParen, i⟩ :: ts ++ [⟨.punct .rightParen, j⟩]) e := by
  intro fuel depth rest enough within _
  obtain ⟨fuel, rfl⟩ := exists_fuel enough
  simp only [List.length_append, List.length_cons, List.length_nil] at enough
  simp only [List.append_assoc, List.cons_append, List.nil_append]
  have inner := accepts (enough_of_lt enough (by omega)) within
    (show Ends .expression (⟨.punct .rightParen, j⟩ :: rest) from Nat.zero_lt_one)
  change parsePrimary limit (fuel + 1)
    ⟨⟨.punct .leftParen, i⟩ :: (ts ++ ⟨.punct .rightParen, j⟩ :: rest), depth⟩ = _
  rw [parsePrimary]
  dsimp only
  refine bind_eq_ok_iff.mpr ⟨_, inner, ?_⟩
  exact bind_eq_ok_iff.mpr ⟨_, expect_eq_ok .rightParen j rest depth _, rfl⟩

theorem accepts_array {items : List Expr} (accepts : Accepts limit (.items .square) h ts items) :
    Accepts limit .primary (h + 1) (⟨.punct .leftBracket, i⟩ :: ts) (.array items) := by
  intro fuel depth rest enough within _
  obtain ⟨fuel, rfl⟩ := exists_fuel enough
  have below : depth < limit := by omega
  have innerWithin : depth + 1 + h ≤ limit := by omega
  have inner := accepts (enough_of_lt enough (Nat.lt_succ_self _)) innerWithin (ends_items .square rest)
  change parsePrimary limit (fuel + 1) ⟨⟨.punct .leftBracket, i⟩ :: (ts ++ rest), depth⟩ = _
  rw [parsePrimary]
  dsimp only
  refine bind_eq_ok_iff.mpr ⟨_, enter_eq_ok _ below, ?_⟩
  exact bind_eq_ok_iff.mpr ⟨_, inner, rfl⟩

theorem accepts_object {entries : List (String × Expr)}
    (accepts : Accepts limit .entries h ts entries) :
    Accepts limit .primary (h + 1) (⟨.punct .leftBrace, i⟩ :: ts) (.object entries) := by
  intro fuel depth rest enough within _
  obtain ⟨fuel, rfl⟩ := exists_fuel enough
  have below : depth < limit := by omega
  have innerWithin : depth + 1 + h ≤ limit := by omega
  have inner := accepts (enough_of_lt enough (Nat.lt_succ_self _)) innerWithin (ends_entries rest)
  change parsePrimary limit (fuel + 1) ⟨⟨.punct .leftBrace, i⟩ :: (ts ++ rest), depth⟩ = _
  rw [parsePrimary]
  dsimp only
  refine bind_eq_ok_iff.mpr ⟨_, enter_eq_ok _ below, ?_⟩
  exact bind_eq_ok_iff.mpr ⟨_, inner, rfl⟩

/-! ## Items and entries -/

theorem ends_expression_closing (bracket : Bracket) (i : Nat) (rest : List Token) :
    Ends .expression (⟨.punct bracket.closing, i⟩ :: rest) := by
  cases bracket <;> exact Nat.zero_lt_one

theorem accepts_noItem {bracket : Bracket} :
    Accepts limit (.items bracket) h [⟨.punct bracket.closing, i⟩] [] := by
  intro fuel depth rest enough _ _
  obtain ⟨fuel, rfl⟩ := exists_fuel enough
  change parseItems limit (fuel + 1) _ _ ⟨⟨.punct bracket.closing, i⟩ :: rest, depth⟩ = _
  rw [parseItems, eat?_eq_some]

theorem accepts_lastItem {bracket : Bracket} {e : Expr} (derives : Derives .expression h ts e)
    (accepts : Accepts limit .expression h ts e) :
    Accepts limit (.items bracket) h (ts ++ [⟨.punct bracket.closing, i⟩]) [e] := by
  intro fuel depth rest enough within _
  obtain ⟨fuel, rfl⟩ := exists_fuel enough
  simp only [List.length_append, List.length_cons, List.length_nil] at enough
  simp only [List.append_assoc, List.cons_append, List.nil_append]
  have inner := accepts (enough_of_lt enough (by omega)) within (ends_expression_closing bracket i rest)
  have noComma : eat? ⟨⟨.punct bracket.closing, i⟩ :: rest, depth⟩ .comma = none := by
    cases bracket <;> rfl
  change parseItems limit (fuel + 1) _ _ _ = _
  rw [parseItems, derives.eat?_closing_eq_none]
  dsimp only
  refine bind_eq_ok_iff.mpr ⟨_, inner, ?_⟩
  dsimp only
  rw [noComma]
  exact bind_eq_ok_iff.mpr ⟨_, expect_eq_ok bracket.closing i rest depth _, rfl⟩

theorem accepts_item {bracket : Bracket} {e : Expr} {items : List Expr}
    (derives : Derives .expression h ts e) (accepts : Accepts limit .expression h ts e)
    (restAccepts : Accepts limit (.items bracket) h us items) :
    Accepts limit (.items bracket) h (ts ++ ⟨.punct .comma, i⟩ :: us) (e :: items) := by
  intro fuel depth rest enough within ends
  obtain ⟨fuel, rfl⟩ := exists_fuel enough
  simp only [List.length_append, List.length_cons] at enough
  simp only [List.append_assoc, List.cons_append]
  have inner := accepts (enough_of_lt enough (by omega)) within
    (show Ends .expression (⟨.punct .comma, i⟩ :: (us ++ rest)) from Nat.zero_lt_one)
  change parseItems limit (fuel + 1) _ _ _ = _
  rw [parseItems, derives.eat?_closing_eq_none]
  dsimp only
  refine bind_eq_ok_iff.mpr ⟨_, inner, ?_⟩
  dsimp only
  rw [eat?_eq_some]
  exact bind_eq_ok_iff.mpr ⟨_, restAccepts (enough_of_lt enough (by omega)) within ends, rfl⟩

theorem accepts_noEntry : Accepts limit .entries h [⟨.punct .rightBrace, i⟩] [] := by
  intro fuel depth rest enough _ _
  obtain ⟨fuel, rfl⟩ := exists_fuel enough
  rfl

theorem eat?_rightBrace_eq_none {kind : TokenKind} {key : String} (isKey : EntryKey kind key)
    (i : Nat) (tokens : List Token) (depth : Nat) :
    eat? ⟨⟨kind, i⟩ :: tokens, depth⟩ .rightBrace = none := by
  cases isKey <;> rfl

theorem accepts_lastEntry {kind : TokenKind} {key : String} {e : Expr} {k : Nat}
    (isKey : EntryKey kind key) (accepts : Accepts limit .expression h ts e) :
    Accepts limit .entries h
      (⟨kind, i⟩ :: ⟨.punct .colon, j⟩ :: ts ++ [⟨.punct .rightBrace, k⟩]) [(key, e)] := by
  intro fuel depth rest enough within _
  obtain ⟨fuel, rfl⟩ := exists_fuel enough
  simp only [List.length_append, List.length_cons, List.length_nil] at enough
  simp only [List.append_assoc, List.cons_append, List.nil_append]
  have inner := accepts (enough_of_lt enough (by omega)) within
    (show Ends .expression (⟨.punct .rightBrace, k⟩ :: rest) from Nat.zero_lt_one)
  have found := entryKey?_eq_some_iff.mpr isKey
  change parseEntries limit (fuel + 1) _ = _
  rw [parseEntries, eat?_rightBrace_eq_none isKey]
  dsimp only [List.head?_cons, Option.bind_some]
  rw [found]
  dsimp only
  refine bind_eq_ok_iff.mpr ⟨_, expect_eq_ok .colon j _ depth _, ?_⟩
  refine bind_eq_ok_iff.mpr ⟨_, inner, ?_⟩
  exact bind_eq_ok_iff.mpr ⟨_, expect_eq_ok .rightBrace k rest depth _, rfl⟩

theorem accepts_entry {kind : TokenKind} {key : String} {e : Expr} {k : Nat}
    {entries : List (String × Expr)} (isKey : EntryKey kind key)
    (accepts : Accepts limit .expression h ts e)
    (restAccepts : Accepts limit .entries h us entries) :
    Accepts limit .entries h
      (⟨kind, i⟩ :: ⟨.punct .colon, j⟩ :: ts ++ ⟨.punct .comma, k⟩ :: us)
      ((key, e) :: entries) := by
  intro fuel depth rest enough within ends
  obtain ⟨fuel, rfl⟩ := exists_fuel enough
  simp only [List.length_append, List.length_cons] at enough
  simp only [List.append_assoc, List.cons_append]
  have inner := accepts (enough_of_lt enough (by omega)) within
    (show Ends .expression (⟨.punct .comma, k⟩ :: (us ++ rest)) from Nat.zero_lt_one)
  have found := entryKey?_eq_some_iff.mpr isKey
  change parseEntries limit (fuel + 1) _ = _
  rw [parseEntries, eat?_rightBrace_eq_none isKey]
  dsimp only [List.head?_cons, Option.bind_some]
  rw [found]
  dsimp only
  refine bind_eq_ok_iff.mpr ⟨_, expect_eq_ok .colon j _ depth _, ?_⟩
  refine bind_eq_ok_iff.mpr ⟨_, inner, ?_⟩
  dsimp only
  rw [eat?_eq_some]
  exact bind_eq_ok_iff.mpr ⟨_, restAccepts (enough_of_lt enough (by omega)) within ends, rfl⟩

/-! ## All phrases -/

/-- Each phrase is read from in front of what ends it. -/
theorem Derives.accepts (limit : Nat) {p : Phrase} {h : Nat} {ts : List Token} {e : p.Tree}
    (derives : Derives p h ts e) : Accepts limit p h ts e ∧ Reaches limit p h ts e := by
  induction derives with
  | expression _ ih => exact ⟨accepts_expression ih.1, trivial⟩
  | unconditional _ ih => exact ⟨accepts_unconditional ih.1, trivial⟩
  | conditional _ _ _ ih ihs iht => exact ⟨accepts_conditional ih.1 ihs.1 iht.1, trivial⟩
  | single inside _ ih => exact accepts_of_reachesChain inside (reachesChain_single inside ih.1)
  | joined stands _ _ ih ihs =>
      exact accepts_of_reachesChain stands.rank_eq.2 (reachesChain_joined stands ih.2 ihs.1)
  | operand beyond _ ih => exact ⟨accepts_operand beyond ih.1, reachesChain_operand beyond⟩
  | unmarked d ih => exact ⟨accepts_unmarked d ih.1, trivial⟩
  | marked stands _ ih => exact ⟨accepts_marked stands ih.1, trivial⟩
  | primary _ ih => exact accepts_of_reachesSuffixes (reachesSuffixes_primary ih.1)
  | member _ ih => exact accepts_of_reachesSuffixes (reachesSuffixes_member ih.2)
  | index _ _ ih ihs => exact accepts_of_reachesSuffixes (reachesSuffixes_index ih.2 ihs.1)
  | call _ _ ih ihs => exact accepts_of_reachesSuffixes (reachesSuffixes_call ih.2 ihs.1)
  | number => exact ⟨accepts_number, trivial⟩
  | string => exact ⟨accepts_string, trivial⟩
  | word word => exact ⟨accepts_word word, trivial⟩
  | identifier noWord => exact ⟨accepts_identifier noWord, trivial⟩
  | grouped _ ih => exact ⟨accepts_grouped ih.1, trivial⟩
  | array _ ih => exact ⟨accepts_array ih.1, trivial⟩
  | object _ ih => exact ⟨accepts_object ih.1, trivial⟩
  | noItem => exact ⟨accepts_noItem, trivial⟩
  | lastItem d ih => exact ⟨accepts_lastItem d ih.1, trivial⟩
  | item d _ ih ihs => exact ⟨accepts_item d ih.1 ihs.1, trivial⟩
  | noEntry => exact ⟨accepts_noEntry, trivial⟩
  | lastEntry isKey _ ih => exact ⟨accepts_lastEntry isKey ih.1, trivial⟩
  | entry isKey _ _ ih ihs => exact ⟨accepts_entry isKey ih.1 ihs.1, trivial⟩

/-- All tokens of an expression are read, whatever the limit, if the nesting is within it. -/
theorem parseExpression_of_derives {limit h : Nat} {tokens : List Token} {e : Expr}
    (derives : Derives .expression h tokens e) (within : h ≤ limit) :
    parseExpression limit (parserFuel tokens) ⟨tokens, 0⟩ = .ok (e, ⟨[], 0⟩) := by
  have enough : 16 * tokens.length + Phrase.expression.calls ≤ parserFuel tokens := by
    rw [parserFuel, Phrase.calls]
    omega
  have accepts := (derives.accepts limit).1 enough
    (show 0 + h ≤ limit by omega) (show Ends .expression [] from Nat.zero_lt_one)
  rw [List.append_nil] at accepts
  exact accepts

theorem parseWithin_of_derives {limit h : Nat} {tokens : List Token} {e : Expr}
    (derives : Derives .expression h tokens e) (within : h ≤ limit) (shallow : e.depth ≤ limit) :
    parseWithin limit tokens = .ok e := by
  rw [parseWithin, parseExpression_of_derives derives within, ok_bind]
  dsimp only [List.isEmpty_nil]
  rw [if_pos rfl, if_pos ((isWithinDepth_iff limit e).mpr shallow)]
  rfl

/-- The tokens of an expression leave no choice of its tree. -/
theorem Derives.unique {h k : Nat} {tokens : List Token} {e f : Expr}
    (derives : Derives .expression h tokens e) (other : Derives .expression k tokens f) :
    e = f := by
  have first := parseExpression_of_derives derives (Nat.le_max_left h k)
  have second := parseExpression_of_derives other (Nat.le_max_right h k)
  rw [first] at second
  cases second
  rfl

end Semblance.Expr
