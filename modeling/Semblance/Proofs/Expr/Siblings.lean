import Semblance.Proofs.Expr.Progress

/-!
# What stands beside each other is not nested

A chain of operands, the members, indexes and calls after an operand, the items of a list and the
entries of an object are rows of phrases. A row is read at some depth exactly when each phrase of it
is read alone at that depth, however many there are: no phrase leaves anything of its own nesting to
the next.
-/

namespace Semblance.Expr

open ParserState

/-- The tokens are a phrase for the parser at a depth, and nothing is left of them. -/
def Phrase.ReadsAlone (limit depth : Nat) (p : Phrase) (ts : List Token) (e : p.Tree) : Prop :=
  p.parser limit (parserFuel ts) ⟨ts, depth⟩ = .ok (e, ⟨[], depth⟩)

/-- Phrases that put any number of others beside each other. -/
def Phrase.IsRow : Phrase → Prop
  | chain n => n < 7
  | suffixed | items _ | entries => True
  | expression | conditional | unary | primary => False

/-- The tokens are a row of phrases, each of which has its tokens for itself. -/
inductive Row (Alone : (p : Phrase) → List Token → p.Tree → Prop) :
    (p : Phrase) → List Token → p.Tree → Prop where
  | operand {n ts e} :
      n < 7 → Alone (.chain (n + 1)) ts e → Row Alone (.chain n) ts e
  | joined {n mark op ts us left right i} :
      BinaryMark n mark op → Row Alone (.chain n) ts left → Alone (.chain (n + 1)) us right →
      Row Alone (.chain n) (ts ++ ⟨.punct mark, i⟩ :: us) (op.apply left right)
  | primary {ts e} :
      Alone .primary ts e → Row Alone .suffixed ts e
  | member {ts e name i j} :
      Row Alone .suffixed ts e →
      Row Alone .suffixed (ts ++ [⟨.punct .dot, i⟩, ⟨.identifier name, j⟩])
        (.member e (.literal (.string name)))
  | index {ts us e property i j} :
      Row Alone .suffixed ts e → Alone .expression us property →
      Row Alone .suffixed (ts ++ ⟨.punct .leftBracket, i⟩ :: us ++ [⟨.punct .rightBracket, j⟩])
        (.member e property)
  | call {ts us function args i} :
      Row Alone .suffixed ts (.identifier function) → Row Alone (.items .round) us args →
      Row Alone .suffixed (ts ++ ⟨.punct .leftParen, i⟩ :: us) (.call function args)
  | noItem {bracket i} :
      Row Alone (.items bracket) [⟨.punct bracket.closing, i⟩] []
  | lastItem {bracket ts e i} :
      Alone .expression ts e →
      Row Alone (.items bracket) (ts ++ [⟨.punct bracket.closing, i⟩]) [e]
  | item {bracket ts us e items i} :
      Alone .expression ts e → Row Alone (.items bracket) us items →
      Row Alone (.items bracket) (ts ++ ⟨.punct .comma, i⟩ :: us) (e :: items)
  | noEntry {i} :
      Row Alone .entries [⟨.punct .rightBrace, i⟩] []
  | lastEntry {kind key ts e i j k} :
      EntryKey kind key → Alone .expression ts e →
      Row Alone .entries (⟨kind, i⟩ :: ⟨.punct .colon, j⟩ :: ts ++ [⟨.punct .rightBrace, k⟩])
        [(key, e)]
  | entry {kind key ts us e entries i j k} :
      EntryKey kind key → Alone .expression ts e → Row Alone .entries us entries →
      Row Alone .entries (⟨kind, i⟩ :: ⟨.punct .colon, j⟩ :: ts ++ ⟨.punct .comma, k⟩ :: us)
        ((key, e) :: entries)

theorem Row.derives {h : Nat} {p : Phrase} {ts : List Token} {e : p.Tree}
    (row : Row (fun q => Derives q h) p ts e) : Derives p h ts e := by
  induction row with
  | operand inside alone => exact .single inside alone
  | joined stands _ alone ih => exact .joined stands ih alone
  | primary alone => exact .primary alone
  | member _ ih => exact .member ih
  | index _ alone ih => exact .index ih alone
  | call _ _ ih ihs => exact .call ih ihs
  | noItem => exact .noItem
  | lastItem alone => exact .lastItem alone
  | item alone _ ih => exact .item alone ih
  | noEntry => exact .noEntry
  | lastEntry isKey alone => exact .lastEntry isKey alone
  | entry isKey alone _ ih => exact .entry isKey alone ih

theorem Derives.row {h : Nat} {p : Phrase} {ts : List Token} {e : p.Tree}
    (derives : Derives p h ts e) (isRow : p.IsRow) : Row (fun q => Derives q h) p ts e := by
  induction derives with
  | single inside alone => exact .operand inside alone
  | joined stands _ alone ih => exact .joined stands (ih isRow) alone
  | primary alone => exact .primary alone
  | member _ ih => exact .member (ih isRow)
  | index _ alone ih => exact .index (ih isRow) alone
  | call _ _ ih ihs => exact .call (ih isRow) (ihs trivial)
  | noItem => exact .noItem
  | lastItem alone => exact .lastItem alone
  | item alone _ _ ih => exact .item alone (ih isRow)
  | noEntry => exact .noEntry
  | lastEntry isKey alone => exact .lastEntry isKey alone
  | entry isKey alone _ _ ih => exact .entry isKey alone (ih isRow)
  | operand beyond => exact absurd isRow (Nat.not_lt.mpr beyond)
  | _ => exact isRow.elim

/-- No tokens are left to go on with a phrase. -/
theorem ends_nil (p : Phrase) : Ends p [] := by
  change 0 < p.tightness
  cases p <;> rw [Phrase.tightness] <;> omega

/-- What is read alone at a depth is what the levels that are left derive. -/
theorem readsAlone_iff_derives {limit depth : Nat} (within : depth ≤ limit) {p : Phrase}
    {ts : List Token} {e : p.Tree} :
    p.ReadsAlone limit depth ts e ↔ Derives p (limit - depth) ts e := by
  constructor
  · intro read
    obtain ⟨us, taken, -, derives⟩ := (isSound limit (parserFuel ts)).phrase p read
    rw [List.append_nil] at taken
    subst taken
    exact derives
  · intro derives
    have enough : 16 * ts.length + p.calls ≤ parserFuel ts := by
      have most : p.calls ≤ 16 := by cases p <;> rw [Phrase.calls] <;> omega
      rw [parserFuel]
      omega
    have accepts := (derives.accepts limit).1 enough (by omega : depth + (limit - depth) ≤ limit)
      (ends_nil p)
    rw [List.append_nil] at accepts
    exact accepts

/-- At whatever depth a row stands, all that it puts beside each other is read at that depth. -/
theorem readsAlone_iff_row {limit depth : Nat} (within : depth ≤ limit) {p : Phrase}
    (isRow : p.IsRow) (ts : List Token) (e : p.Tree) :
    p.ReadsAlone limit depth ts e ↔ Row (Phrase.ReadsAlone limit depth) p ts e := by
  have same : Phrase.ReadsAlone limit depth = fun q => Derives q (limit - depth) := by
    funext q us f
    exact propext (readsAlone_iff_derives within)
  rw [readsAlone_iff_derives within, same]
  exact ⟨fun derives => derives.row isRow, Row.derives⟩

/-- The parser of a phrase fails, or it goes on by at least one token, to the last one at most, and
leaves the nesting as it was. Hence tokens are parsed as they would be with nothing to bound the
calls. And a row of phrases, however many they are, is read at some depth exactly when each of them
is read alone at that depth. -/
theorem parser_isProgressive (limit : Nat) :
    (∀ (p : Phrase) (tokens : List Token) (pos depth fuel : Nat),
      (∃ error, p.parser limit fuel ⟨tokens.drop pos, depth⟩ = .error error) ∨
        ∃ e next,
          p.parser limit fuel ⟨tokens.drop pos, depth⟩ = .ok (e, ⟨tokens.drop next, depth⟩) ∧
            pos < next ∧ next ≤ tokens.length) ∧
      (∀ (p : Phrase) (s : ParserState) (more : Nat),
        p.parser limit (parserFuel s.tokens + more) s = (p.read limit s).map Subtype.val) ∧
      (∀ tokens : List Token, parseWithin limit tokens = readWithin limit tokens) ∧
      ∀ depth ≤ limit, ∀ p : Phrase, p.IsRow → ∀ (ts : List Token) (e : p.Tree),
        p.ReadsAlone limit depth ts e ↔ Row (Phrase.ReadsAlone limit depth) p ts e := by
  refine ⟨parser_progresses limit, parser_eq_read limit, parseWithin_eq_readWithin limit, ?_⟩
  intro depth within p isRow ts e
  exact readsAlone_iff_row within isRow ts e

/-- Three items are read where there is one level left, as each of them is. -/
theorem parser_isProgressive_items :
    let tokens : List Token := [⟨.identifier "a", 0⟩, ⟨.punct .comma, 1⟩, ⟨.identifier "b", 2⟩,
      ⟨.punct .comma, 3⟩, ⟨.identifier "c", 4⟩, ⟨.punct .rightBracket, 5⟩]
    63 ≤ maxExpressionDepth ∧ (Phrase.items .square).IsRow ∧
      (Phrase.items .square).ReadsAlone maxExpressionDepth 63 tokens
        [.identifier "a", .identifier "b", .identifier "c"] := by
  intro tokens
  obtain ⟨-, -, -, rows⟩ := parser_isProgressive maxExpressionDepth
  refine ⟨by decide, trivial, (rows 63 (by decide) (.items .square) trivial _ _).mpr ?_⟩
  have first : Phrase.expression.ReadsAlone maxExpressionDepth 63 [⟨.identifier "a", 0⟩]
      (.identifier "a") := rfl
  have second : Phrase.expression.ReadsAlone maxExpressionDepth 63 [⟨.identifier "b", 2⟩]
      (.identifier "b") := rfl
  have third : Phrase.expression.ReadsAlone maxExpressionDepth 63 [⟨.identifier "c", 4⟩]
      (.identifier "c") := rfl
  exact .item first (.item second (.lastItem third))

end Semblance.Expr
