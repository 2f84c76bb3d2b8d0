import Semblance.Proofs.Expr.Depth
import Semblance.Proofs.Expr.Steps

/-!
# What the parser accepts is an expression

Whatever a parser of a phrase takes from the tokens derives the tree it returns. A loop over a chain
extends what has been derived so far, which is how the chain comes to group to the left.
-/

namespace Semblance.Expr

open ParserState

/-- Between two states, tokens were taken that derive a tree within what nesting is left. -/
def Reads (limit : Nat) (p : Phrase) (s t : ParserState) (e : p.Tree) : Prop :=
  ∃ ts, s.tokens = ts ++ t.tokens ∧ t.depth = s.depth ∧ Derives p (limit - s.depth) ts e

/-- Between two states, tokens were taken that make one tree of a phrase another. -/
def Extends (limit : Nat) (p : Phrase) (s t : ParserState) (left e : p.Tree) : Prop :=
  ∃ us, s.tokens = us ++ t.tokens ∧ t.depth = s.depth ∧
    ∀ ts, Derives p (limit - s.depth) ts left → Derives p (limit - s.depth) (ts ++ us) e

theorem Extends.refl {limit : Nat} {p : Phrase} {s : ParserState} {e : p.Tree} :
    Extends limit p s s e e := by
  refine ⟨[], rfl, rfl, fun ts derives => ?_⟩
  rw [List.append_nil]
  exact derives

/-- One step of a loop, and then the rest of the loop. -/
theorem Extends.step {limit : Nat} {p : Phrase} {s t u : ParserState} {left next e : p.Tree}
    (first : List Token) (taken : s.tokens = first ++ t.tokens) (depth : t.depth = s.depth)
    (grow : ∀ ts, Derives p (limit - s.depth) ts left →
      Derives p (limit - s.depth) (ts ++ first) next)
    (rest : Extends limit p t u next e) : Extends limit p s u left e := by
  obtain ⟨us, others, same, extend⟩ := rest
  rw [depth] at same extend
  refine ⟨first ++ us, ?_, same, fun ts derives => ?_⟩
  · rw [taken, others, List.append_assoc]
  · rw [← List.append_assoc]
    exact extend _ (grow ts derives)

theorem Reads.extend {limit : Nat} {p : Phrase} {s t u : ParserState} {left e : p.Tree}
    (read : Reads limit p s t left) (extended : Extends limit p t u left e) :
    Reads limit p s u e := by
  obtain ⟨ts, taken, depth, derives⟩ := read
  obtain ⟨us, others, same, extend⟩ := extended
  rw [depth] at same extend
  refine ⟨ts ++ us, ?_, same, extend ts derives⟩
  rw [taken, others, List.append_assoc]

/-- What was read one level deeper. -/
theorem Reads.nested {limit : Nat} {p : Phrase} {s inner t : ParserState} {e : p.Tree}
    (entered : s.enter limit = .ok inner) (read : Reads limit p inner t e) :
    ∃ ts h, s.tokens = ts ++ t.leave.tokens ∧ t.leave.depth = s.depth ∧ limit - s.depth = h + 1 ∧
      Derives p h ts e := by
  obtain ⟨shallow, tokens, depth⟩ := enter_eq_ok_iff.mp entered
  obtain ⟨ts, taken, same, derives⟩ := read
  refine ⟨ts, _, tokens ▸ taken, ?_, ?_, derives⟩
  · rw [leave]
    dsimp only
    omega
  · omega

/-- The parsers are sound with a given fuel. -/
structure IsSound (limit fuel : Nat) : Prop where
  phrase : ∀ (p : Phrase) {s t : ParserState} {e : p.Tree},
    p.parser limit fuel s = .ok (e, t) → Reads limit p s t e
  chain : ∀ {n : Nat} {level : Level} {tighter : List Level} {s t : ParserState} {left e : Expr},
    levels.drop n = level :: tighter →
    parseChain limit fuel level tighter left s = .ok (e, t) →
    Extends limit (.chain n) s t left e
  suffixes : ∀ {s t : ParserState} {left e : Expr},
    parseSuffixes limit fuel left s = .ok (e, t) → Extends limit .suffixed s t left e

namespace IsSound

variable {limit fuel : Nat} {s t : ParserState}

theorem zero (limit : Nat) : IsSound limit 0 where
  phrase p s t e parsed := by cases p <;> cases parsed
  chain _ parsed := by cases parsed
  suffixes parsed := by cases parsed

theorem expression (sound : IsSound limit fuel) {e : Expr}
    (parsed : parseExpression limit (fuel + 1) s = .ok (e, t)) : Reads limit .expression s t e := by
  rw [parseExpression] at parsed
  obtain ⟨inner, entered, parsed⟩ := bind_eq_ok_iff.mp parsed
  obtain ⟨⟨e, u⟩, conditional, parsed⟩ := bind_eq_ok_iff.mp parsed
  cases parsed
  obtain ⟨ts, h, taken, depth, deeper, derives⟩ :=
    (sound.phrase .conditional conditional).nested entered
  refine ⟨ts, taken, depth, ?_⟩
  rw [deeper]
  exact .expression derives

theorem conditional (sound : IsSound limit fuel) {e : Expr}
    (parsed : parseConditional limit (fuel + 1) s = .ok (e, t)) :
    Reads limit .conditional s t e := by
  rw [parseConditional] at parsed
  obtain ⟨⟨test, u⟩, chain, parsed⟩ := bind_eq_ok_iff.mp parsed
  obtain ⟨ts, taken, depth, derives⟩ := sound.phrase (.chain 0) chain
  dsimp only at parsed
  split at parsed
  · cases parsed
    exact ⟨ts, taken, depth, .unconditional derives⟩
  · rename_i v question
    obtain ⟨i, mark, vDepth⟩ := eat?_eq_some_iff.mp question
    obtain ⟨⟨consequent, w⟩, first, parsed⟩ := bind_eq_ok_iff.mp parsed
    obtain ⟨us, usTaken, wDepth, usDerives⟩ := sound.phrase .expression first
    obtain ⟨x, colon, parsed⟩ := bind_eq_ok_iff.mp parsed
    obtain ⟨j, otherMark, xDepth⟩ := expect_eq_ok_iff.mp colon
    obtain ⟨⟨alternate, y⟩, second, parsed⟩ := bind_eq_ok_iff.mp parsed
    obtain ⟨vs, vsTaken, yDepth, vsDerives⟩ := sound.phrase .expression second
    cases parsed
    dsimp only at otherMark xDepth
    -- All three parts were read at the same depth.
    rw [vDepth, depth] at usDerives
    rw [xDepth, wDepth, vDepth, depth] at vsDerives
    refine ⟨_, ?_, ?_, .conditional (i := i) (j := j) derives usDerives vsDerives⟩
    · rw [taken, mark, usTaken, otherMark, vsTaken]
      simp
    · rw [yDepth, xDepth, wDepth, vDepth, depth]

theorem levels (sound : IsSound limit fuel) (n : Nat) {e : Expr}
    (parsed : parseLevels limit (fuel + 1) (levels.drop n) s = .ok (e, t)) :
    Reads limit (.chain n) s t e := by
  by_cases inside : n < 7
  · obtain ⟨level, here⟩ := drop_levels_eq_cons inside
    rw [here, parseLevels] at parsed
    obtain ⟨⟨left, u⟩, operand, chain⟩ := bind_eq_ok_iff.mp parsed
    obtain ⟨ts, taken, depth, derives⟩ := sound.phrase (.chain (n + 1)) operand
    have read : Reads limit (.chain n) s u left := ⟨ts, taken, depth, .single inside derives⟩
    exact read.extend (sound.chain here chain)
  · have beyond : 7 ≤ n := Nat.not_lt.mp inside
    rw [drop_levels_eq_nil beyond, parseLevels] at parsed
    obtain ⟨ts, taken, depth, derives⟩ := sound.phrase .unary parsed
    exact ⟨ts, taken, depth, .operand beyond derives⟩

/-- One more operator of the level, with its right operand. -/
theorem chainStep (sound : IsSound limit fuel) {n : Nat} {level : Level} {tighter : List Level}
    {left e : Expr} (here : Expr.levels.drop n = level :: tighter)
    (parsed : parseChain limit (fuel + 1) level tighter left s = .ok (e, t)) :
    Extends limit (.chain n) s t left e := by
  rw [parseChain] at parsed
  split at parsed
  · cases parsed
    exact .refl
  · rename_i op next
    obtain ⟨mark, peeked, found⟩ := Option.bind_eq_some_iff.mp next
    obtain ⟨i, shape⟩ := peekPunct_eq_some_iff.mp peeked
    obtain ⟨⟨right, u⟩, operand, rest⟩ := bind_eq_ok_iff.mp parsed
    -- The loop goes on with the joined tree as its left operand, so the chain groups to the left.
    rw [(drop_levels_succ here).2] at operand
    obtain ⟨us, taken, depth, derives⟩ := sound.phrase (.chain (n + 1)) operand
    refine .step (⟨.punct mark, i⟩ :: us) ?_ depth (fun ts left => ?_) (sound.chain here rest)
    · rw [shape, taken, List.cons_append]
    · exact .joined ((lookup_levels_iff here).mp found) left derives

theorem unary (sound : IsSound limit fuel) {e : Expr}
    (parsed : parseUnary limit (fuel + 1) s = .ok (e, t)) : Reads limit .unary s t e := by
  rw [parseUnary] at parsed
  split at parsed
  · obtain ⟨ts, taken, depth, derives⟩ := sound.phrase .suffixed parsed
    exact ⟨ts, taken, depth, .unmarked derives⟩
  · rename_i op marked
    cases peeked : s.peekPunct with
    | none =>
        rw [peeked] at marked
        cases marked
    | some mark =>
        rw [peeked, unaryOperator?_eq_some_iff] at marked
        obtain ⟨i, shape⟩ := peekPunct_eq_some_iff.mp peeked
        obtain ⟨inner, entered, parsed⟩ := bind_eq_ok_iff.mp parsed
        obtain ⟨⟨operand, u⟩, read, parsed⟩ := bind_eq_ok_iff.mp parsed
        cases parsed
        obtain ⟨ts, h, taken, depth, deeper, derives⟩ := (sound.phrase .unary read).nested entered
        refine ⟨⟨.punct mark, i⟩ :: ts, ?_, depth, ?_⟩
        · rw [shape, taken, List.cons_append]
        · rw [show limit - s.depth = h + 1 from deeper]
          exact .marked marked derives

theorem suffixed (sound : IsSound limit fuel) {e : Expr}
    (parsed : parsePostfix limit (fuel + 1) s = .ok (e, t)) : Reads limit .suffixed s t e := by
  rw [parsePostfix] at parsed
  obtain ⟨⟨left, u⟩, primary, rest⟩ := bind_eq_ok_iff.mp parsed
  obtain ⟨ts, taken, depth, derives⟩ := sound.phrase .primary primary
  have read : Reads limit .suffixed s u left := ⟨ts, taken, depth, .primary derives⟩
  exact read.extend (sound.suffixes rest)

/-- One more member, index or call. -/
theorem suffixStep (sound : IsSound limit fuel) {left e : Expr}
    (parsed : parseSuffixes limit (fuel + 1) left s = .ok (e, t)) :
    Extends limit .suffixed s t left e := by
  unfold parseSuffixes at parsed
  split at parsed
  · rename_i dot
    obtain ⟨i, shape⟩ := peekPunct_eq_some_iff.mp dot
    split at parsed
    · rename_i name j more named
      have rest : s.advance.tokens = ⟨.identifier name, j⟩ :: s.advance.advance.tokens := by
        change s.advance.tokens = _ :: s.advance.tokens.drop 1
        rw [named]
        rfl
      refine .step (t := s.advance.advance) [⟨.punct .dot, i⟩, ⟨.identifier name, j⟩] ?_ rfl
        (fun ts left => .member left) (sound.suffixes parsed)
      rw [shape, rest]
      rfl
    · cases parsed
  · rename_i bracket
    obtain ⟨i, shape⟩ := peekPunct_eq_some_iff.mp bracket
    obtain ⟨⟨property, u⟩, inner, parsed⟩ := bind_eq_ok_iff.mp parsed
    obtain ⟨us, taken, depth, derives⟩ := sound.phrase .expression inner
    obtain ⟨v, close, rest⟩ := bind_eq_ok_iff.mp parsed
    obtain ⟨j, mark, same⟩ := expect_eq_ok_iff.mp close
    refine .step (⟨.punct .leftBracket, i⟩ :: us ++ [⟨.punct .rightBracket, j⟩]) ?_
      (same.trans depth) (fun ts left => ?_) (sound.suffixes rest)
    · rw [shape, taken, mark]
      simp
    · rw [← List.append_assoc]
      exact .index left derives
  · rename_i paren
    obtain ⟨i, shape⟩ := peekPunct_eq_some_iff.mp paren
    split at parsed
    · obtain ⟨⟨args, u⟩, inner, rest⟩ := bind_eq_ok_iff.mp parsed
      obtain ⟨us, taken, depth, derives⟩ := sound.phrase (.items .round) inner
      refine .step (⟨.punct .leftParen, i⟩ :: us) ?_ depth (fun ts left => .call left derives)
        (sound.suffixes rest)
      rw [shape, taken, List.cons_append]
    · cases parsed
  · cases parsed
    exact .refl

theorem items (sound : IsSound limit fuel) (bracket : Bracket) {es : List Expr}
    (parsed : parseItems limit (fuel + 1) bracket.closing bracket.closingText s = .ok (es, t)) :
    Reads limit (.items bracket) s t es := by
  rw [parseItems] at parsed
  split at parsed
  · rename_i u close
    obtain ⟨i, mark, depth⟩ := eat?_eq_some_iff.mp close
    cases parsed
    exact ⟨[⟨.punct bracket.closing, i⟩], mark, depth, .noItem⟩
  · obtain ⟨⟨item, u⟩, inner, parsed⟩ := bind_eq_ok_iff.mp parsed
    obtain ⟨ts, taken, depth, derives⟩ := sound.phrase .expression inner
    dsimp only at parsed
    split at parsed
    · rename_i v comma
      obtain ⟨i, mark, vDepth⟩ := eat?_eq_some_iff.mp comma
      obtain ⟨⟨rest, w⟩, others, parsed⟩ := bind_eq_ok_iff.mp parsed
      obtain ⟨us, usTaken, wDepth, usDerives⟩ := sound.phrase (.items bracket) others
      cases parsed
      rw [vDepth, depth] at usDerives wDepth
      refine ⟨_, ?_, wDepth, .item (i := i) derives usDerives⟩
      rw [taken, mark, usTaken]
      simp
    · obtain ⟨v, close, parsed⟩ := bind_eq_ok_iff.mp parsed
      obtain ⟨i, mark, vDepth⟩ := expect_eq_ok_iff.mp close
      cases parsed
      refine ⟨_, ?_, vDepth.trans depth, .lastItem (i := i) derives⟩
      rw [taken, mark]
      simp

theorem entries (sound : IsSound limit fuel) {es : List (String × Expr)}
    (parsed : parseEntries limit (fuel + 1) s = .ok (es, t)) : Reads limit .entries s t es := by
  rw [parseEntries] at parsed
  split at parsed
  · rename_i u close
    obtain ⟨i, mark, depth⟩ := eat?_eq_some_iff.mp close
    cases parsed
    exact ⟨[⟨.punct .rightBrace, i⟩], mark, depth, .noEntry⟩
  · split at parsed
    · cases parsed
    · rename_i key found
      obtain ⟨⟨kind, i⟩, first, keyed⟩ := Option.bind_eq_some_iff.mp found
      have shape : s.tokens = ⟨kind, i⟩ :: s.advance.tokens := by
        obtain ⟨tokens, d⟩ := s
        cases tokens with
        | nil => cases first
        | cons token more =>
            cases first
            rfl
      have isKey := entryKey?_eq_some_iff.mp keyed
      obtain ⟨u, colon, parsed⟩ := bind_eq_ok_iff.mp parsed
      obtain ⟨j, colonMark, depth⟩ := expect_eq_ok_iff.mp colon
      obtain ⟨⟨value, v⟩, inner, parsed⟩ := bind_eq_ok_iff.mp parsed
      obtain ⟨ts, taken, vDepth, derives⟩ := sound.phrase .expression inner
      rw [show u.depth = s.depth from depth] at vDepth derives
      dsimp only at parsed
      split at parsed
      · rename_i w comma
        obtain ⟨k, mark, wDepth⟩ := eat?_eq_some_iff.mp comma
        obtain ⟨⟨rest, x⟩, others, parsed⟩ := bind_eq_ok_iff.mp parsed
        obtain ⟨us, usTaken, xDepth, usDerives⟩ := sound.phrase .entries others
        cases parsed
        rw [wDepth, vDepth] at usDerives xDepth
        refine ⟨_, ?_, xDepth, .entry (i := i) (j := j) (k := k) isKey derives usDerives⟩
        rw [shape, colonMark, taken, mark, usTaken]
        simp
      · obtain ⟨w, close, parsed⟩ := bind_eq_ok_iff.mp parsed
        obtain ⟨k, mark, wDepth⟩ := expect_eq_ok_iff.mp close
        cases parsed
        refine ⟨_, ?_, wDepth.trans vDepth, .lastEntry (i := i) (j := j) (k := k) isKey derives⟩
        rw [shape, colonMark, taken, mark]
        simp

theorem primary (sound : IsSound limit fuel) {e : Expr}
    (parsed : parsePrimary limit (fuel + 1) s = .ok (e, t)) : Reads limit .primary s t e := by
  rw [parsePrimary] at parsed
  obtain ⟨tokens, d⟩ := s
  cases tokens with
  | nil => cases parsed
  | cons token rest =>
      obtain ⟨kind, i⟩ := token
      dsimp only at parsed
      split at parsed
      · cases parsed
        exact ⟨_, rfl, rfl, .number⟩
      · cases parsed
        exact ⟨_, rfl, rfl, .string⟩
      · rename_i name
        split at parsed
        · rename_i value word
          cases parsed
          exact ⟨_, rfl, rfl, .word (wordLiteral?_eq_some_iff.mp word)⟩
        · rename_i noWord
          cases parsed
          refine ⟨_, rfl, rfl, .identifier fun value word => ?_⟩
          rw [wordLiteral?_eq_some_iff.mpr word] at noWord
          cases noWord
      · obtain ⟨⟨e, u⟩, inner, parsed⟩ := bind_eq_ok_iff.mp parsed
        obtain ⟨ts, taken, depth, derives⟩ := sound.phrase .expression inner
        obtain ⟨v, close, parsed⟩ := bind_eq_ok_iff.mp parsed
        obtain ⟨j, mark, vDepth⟩ := expect_eq_ok_iff.mp close
        cases parsed
        refine ⟨_, ?_, vDepth.trans depth, .grouped (i := i) (j := j) derives⟩
        change _ :: rest = _
        rw [show rest = ts ++ u.tokens from taken, mark]
        simp
      · obtain ⟨inner, entered, parsed⟩ := bind_eq_ok_iff.mp parsed
        obtain ⟨⟨es, u⟩, read, parsed⟩ := bind_eq_ok_iff.mp parsed
        cases parsed
        obtain ⟨ts, h, taken, depth, deeper, derives⟩ :=
          (sound.phrase (.items .square) read).nested entered
        refine ⟨⟨.punct .leftBracket, i⟩ :: ts, ?_, depth, ?_⟩
        · exact congrArg _ taken
        · rw [show limit - d = h + 1 from deeper]
          exact .array derives
      · obtain ⟨inner, entered, parsed⟩ := bind_eq_ok_iff.mp parsed
        obtain ⟨⟨es, u⟩, read, parsed⟩ := bind_eq_ok_iff.mp parsed
        cases parsed
        obtain ⟨ts, h, taken, depth, deeper, derives⟩ := (sound.phrase .entries read).nested entered
        refine ⟨⟨.punct .leftBrace, i⟩ :: ts, ?_, depth, ?_⟩
        · exact congrArg _ taken
        · rw [show limit - d = h + 1 from deeper]
          exact .object derives
      · cases parsed

theorem succ (sound : IsSound limit fuel) : IsSound limit (fuel + 1) where
  phrase p s t e parsed := by
    cases p with
    | expression => exact sound.expression parsed
    | conditional => exact sound.conditional parsed
    | chain n => exact sound.levels n parsed
    | unary => exact sound.unary parsed
    | suffixed => exact sound.suffixed parsed
    | primary => exact sound.primary parsed
    | items bracket => exact sound.items bracket parsed
    | entries => exact sound.entries parsed
  chain here parsed := sound.chainStep here parsed
  suffixes parsed := sound.suffixStep parsed

end IsSound

theorem isSound (limit fuel : Nat) : IsSound limit fuel := by
  induction fuel with
  | zero => exact .zero limit
  | succ fuel ih => exact ih.succ

/-- What is parsed is an expression, and neither it nor its nesting is too deep. -/
theorem derives_of_parseWithin {limit : Nat} {tokens : List Token} {e : Expr}
    (parsed : parseWithin limit tokens = .ok e) :
    Derives .expression limit tokens e ∧ e.depth ≤ limit := by
  rw [parseWithin] at parsed
  obtain ⟨⟨tree, t⟩, expression, parsed⟩ := bind_eq_ok_iff.mp parsed
  obtain ⟨ts, taken, -, derives⟩ :=
    (isSound limit (parserFuel tokens)).phrase .expression expression
  dsimp only at parsed
  split at parsed
  · rename_i finished
    split at parsed
    · rename_i shallow
      cases parsed
      have whole : tokens = ts := by
        rw [List.isEmpty_iff.mp finished, List.append_nil] at taken
        exact taken
      exact ⟨whole ▸ derives, (isWithinDepth_iff limit _).mp shallow⟩
    · cases parsed
  · cases parsed

end Semblance.Expr
