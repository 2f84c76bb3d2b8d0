import Semblance.Proofs.Expr.Completeness
import Semblance.Proofs.Expr.Soundness

/-!
# The parser makes progress

Whatever phrase is parsed, tokens are taken and the parser is left as deep in its nesting as it was
found. So nothing has to bound its calls: the parser can be defined by recursion on the tokens that
are left, with the progress of each call in the type of its result. The parser that runs has fuel to
bound its calls, and comes to the same results, since the fuel never runs out.
-/

namespace Semblance.Expr

open ParserState

/-! ## Progress -/

/-- Tokens are taken, and the nesting is what it was. -/
structure Advances (s t : ParserState) : Prop where
  depth : t.depth = s.depth
  fewer : t.tokens.length < s.tokens.length

/-- Tokens may be taken, and the nesting is what it was. -/
structure Follows (s t : ParserState) : Prop where
  depth : t.depth = s.depth
  noMore : t.tokens.length ≤ s.tokens.length

variable {s t u : ParserState} {mark : Punct} {limit : Nat}

theorem Follows.refl (s : ParserState) : Follows s s := ⟨rfl, Nat.le_refl _⟩

theorem Advances.trans (first : Advances s t) (second : Advances t u) : Advances s u :=
  ⟨second.depth.trans first.depth, Nat.lt_trans second.fewer first.fewer⟩

theorem Advances.before (first : Advances s t) (second : Follows t u) : Advances s u :=
  ⟨second.depth.trans first.depth, Nat.lt_of_le_of_lt second.noMore first.fewer⟩

theorem Advances.follows (advances : Advances s t) : Follows s t :=
  ⟨advances.depth, Nat.le_of_lt advances.fewer⟩

theorem advances_of_cons {token : Token} (shape : s.tokens = token :: t.tokens)
    (depth : t.depth = s.depth) : Advances s t := by
  refine ⟨depth, ?_⟩
  rw [shape]
  exact Nat.lt_succ_self _

theorem advances_of_tokens {token : Token} {rest : List Token} (shape : s.tokens = token :: rest) :
    Advances s s.advance := by
  have taken : s.tokens = token :: s.advance.tokens := by
    rw [advance, shape]
    rfl
  exact advances_of_cons taken rfl

theorem advances_of_peekPunct (next : s.peekPunct = some mark) : Advances s s.advance := by
  obtain ⟨i, shape⟩ := peekPunct_eq_some_iff.mp next
  exact advances_of_cons shape rfl

theorem advances_of_next? {level : Level} {op : Operator} (next : level.next? s = some op) :
    Advances s s.advance := by
  obtain ⟨mark, peeked, -⟩ := Option.bind_eq_some_iff.mp next
  exact advances_of_peekPunct peeked

theorem advances_of_unaryOperator? {op : UnaryOp}
    (marked : unaryOperator? s.peekPunct = some op) : Advances s s.advance := by
  cases peeked : s.peekPunct with
  | none =>
      rw [peeked] at marked
      cases marked
  | some mark => exact advances_of_peekPunct peeked

theorem advances_of_entryKey? {key : String}
    (keyed : (s.tokens.head?.bind fun token => entryKey? token.kind) = some key) :
    Advances s s.advance := by
  cases shape : s.tokens with
  | nil =>
      rw [shape] at keyed
      cases keyed
  | cons token rest => exact advances_of_tokens shape

theorem follows_advance (s : ParserState) : Follows s s.advance :=
  ⟨rfl, by rw [advance, List.length_drop]; omega⟩

theorem advances_of_eat? (eaten : s.eat? mark = some t) : Advances s t := by
  obtain ⟨i, shape, depth⟩ := eat?_eq_some_iff.mp eaten
  exact advances_of_cons shape depth

theorem advances_of_expect {expected : String} (taken : s.expect mark expected = .ok t) :
    Advances s t := by
  obtain ⟨i, shape, depth⟩ := expect_eq_ok_iff.mp taken
  exact advances_of_cons shape depth

theorem tokens_of_enter (entered : s.enter limit = .ok t) : t.tokens = s.tokens :=
  (enter_eq_ok_iff.mp entered).2.1

/-- What is entered is left again. -/
theorem Advances.leave (entered : s.enter limit = .ok t) (inner : Advances t u) :
    Advances s u.leave := by
  obtain ⟨-, tokens, depth⟩ := enter_eq_ok_iff.mp entered
  refine ⟨?_, ?_⟩
  · rw [ParserState.leave, inner.depth, depth]
    rfl
  · rw [← tokens]
    exact inner.fewer

/-!
## The parser without a bound on its calls

The steps are those of the parser that runs. A call is made with fewer tokens, or with as many for a
tighter phrase.
-/

/-- What is read from a state on, at least one token. -/
abbrev Taken (α : Type) (s : ParserState) : Type := { r : α × ParserState // Advances s r.2 }

/-- What a loop makes of what has been read before it. -/
abbrev Continued (α : Type) (s : ParserState) : Type := { r : α × ParserState // Follows s r.2 }

/-- Go on with a result, knowing where it comes from. -/
def pursue {ε α β : Type} (x : Except ε α) (next : (a : α) → x = .ok a → Except ε β) :
    Except ε β :=
  match x, next with
  | .error error, _ => .error error
  | .ok a, next => next a rfl

mutual

def readExpression (limit : Nat) (s : ParserState) : Except CompileError (Taken Expr s) :=
  pursue (s.enter limit) fun inner entered => do
    let ⟨(e, t), taken⟩ ← readConditional limit inner
    return ⟨(e, t.leave), taken.leave entered⟩
termination_by (s.tokens.length, 13)
decreasing_by
  rw [tokens_of_enter entered]
  exact .right _ (by decide)

def readConditional (limit : Nat) (s : ParserState) : Except CompileError (Taken Expr s) := do
  let ⟨(test, t), first⟩ ← readLevels limit levels s
  (t.eat? .question).pelim (.ok ⟨(test, t), first⟩) fun u question => do
    let asked := first.trans (advances_of_eat? question)
    let ⟨(consequent, v), second⟩ ← readExpression limit u
    pursue (v.expect .colon "':'") fun w colon => do
      let decided := (asked.trans second).trans (advances_of_expect colon)
      let ⟨(alternate, x), third⟩ ← readExpression limit w
      return ⟨(.conditional test consequent alternate, x), decided.trans third⟩
termination_by (s.tokens.length, 12)
decreasing_by
  · exact .right _ (by decide)
  · exact .left _ _ asked.fewer
  · exact .left _ _ decided.fewer

def readLevels (limit : Nat) (ls : List Level) (s : ParserState) :
    Except CompileError (Taken Expr s) :=
  match ls with
  | [] => readUnary limit s
  | level :: tighter => do
      let ⟨(left, t), first⟩ ← readLevels limit tighter s
      let ⟨r, rest⟩ ← readChain limit level tighter left t
      return ⟨r, first.before rest⟩
termination_by (s.tokens.length, 4 + ls.length)
decreasing_by
  · exact .right _ (by simp)
  · exact .right _ (by simp)
  · exact .left _ _ first.fewer

def readChain (limit : Nat) (level : Level) (tighter : List Level) (left : Expr)
    (s : ParserState) : Except CompileError (Continued Expr s) :=
  (level.next? s).pelim (.ok ⟨(left, s), .refl s⟩) fun op next => do
    let marked := advances_of_next? next
    let ⟨(right, t), operand⟩ ← readLevels limit tighter s.advance
    let ⟨r, rest⟩ ← readChain limit level tighter (op.apply left right) t
    return ⟨r, ((marked.trans operand).before rest).follows⟩
termination_by (s.tokens.length, 1)
decreasing_by
  · exact .left _ _ marked.fewer
  · exact .left _ _ (marked.trans operand).fewer

def readUnary (limit : Nat) (s : ParserState) : Except CompileError (Taken Expr s) :=
  (unaryOperator? s.peekPunct).pelim (readPostfix limit s) fun op found =>
    let marked := advances_of_unaryOperator? found
    pursue (s.advance.enter limit) fun inner entered => do
      let ⟨(operand, t), taken⟩ ← readUnary limit inner
      return ⟨(.unary op operand, t.leave), marked.trans (taken.leave entered)⟩
termination_by (s.tokens.length, 3)
decreasing_by
  · exact .right _ (by decide)
  · rw [tokens_of_enter entered]
    exact .left _ _ marked.fewer

def readPostfix (limit : Nat) (s : ParserState) : Except CompileError (Taken Expr s) := do
  let ⟨(e, t), first⟩ ← readPrimary limit s
  let ⟨r, rest⟩ ← readSuffixes limit e t
  return ⟨r, first.before rest⟩
termination_by (s.tokens.length, 2)
decreasing_by
  · exact .right _ (by decide)
  · exact .left _ _ first.fewer

def readSuffixes (limit : Nat) (e : Expr) (s : ParserState) :
    Except CompileError (Continued Expr s) :=
  s.peekPunct.pelim (.ok ⟨(e, s), .refl s⟩) fun mark next =>
    let marked := advances_of_peekPunct next
    match mark with
    | .dot =>
        let named := marked.before (follows_advance s.advance)
        match s.advance.tokens with
        | ⟨.identifier name, _⟩ :: _ => do
            let ⟨r, rest⟩ ←
              readSuffixes limit (.member e (.literal (.string name))) s.advance.advance
            return ⟨r, (named.before rest).follows⟩
        | _ => .error (s.advance.unexpected "a property name")
    | .leftBracket => do
        let ⟨(property, t), inner⟩ ← readExpression limit s.advance
        pursue (t.expect .rightBracket "']'") fun u close => do
          let indexed := (marked.trans inner).trans (advances_of_expect close)
          let ⟨r, rest⟩ ← readSuffixes limit (.member e property) u
          return ⟨r, (indexed.before rest).follows⟩
    | .leftParen =>
        match e with
        | .identifier function => do
            let ⟨(args, t), inner⟩ ← readItems limit .rightParen "')'" s.advance
            let called := marked.trans inner
            let ⟨r, rest⟩ ← readSuffixes limit (.call function args) t
            return ⟨r, (called.before rest).follows⟩
        | _ => .error (.invalidCall ((s.tokens.head?.map (·.offset)).getD 0))
    | _ => .ok ⟨(e, s), .refl s⟩
termination_by (s.tokens.length, 1)
decreasing_by
  · exact .left _ _ named.fewer
  · exact .left _ _ marked.fewer
  · exact .left _ _ indexed.fewer
  · exact .left _ _ marked.fewer
  · exact .left _ _ called.fewer

def readItems (limit : Nat) (close : Punct) (expected : String) (s : ParserState) :
    Except CompileError (Taken (List Expr) s) :=
  (s.eat? close).pelim
    (do
      let ⟨(item, t), first⟩ ← readExpression limit s
      (t.eat? .comma).pelim
        (pursue (t.expect close expected) fun u closed =>
          .ok ⟨([item], u), first.trans (advances_of_expect closed)⟩)
        fun u comma => do
          let separated := first.trans (advances_of_eat? comma)
          let ⟨(items, v), rest⟩ ← readItems limit close expected u
          return ⟨(item :: items, v), separated.trans rest⟩)
    fun t closed => .ok ⟨([], t), advances_of_eat? closed⟩
termination_by (s.tokens.length, 14)
decreasing_by
  · exact .right _ (by decide)
  · exact .left _ _ separated.fewer

def readEntries (limit : Nat) (s : ParserState) :
    Except CompileError (Taken (List (String × Expr)) s) :=
  (s.eat? .rightBrace).pelim
    ((s.tokens.head?.bind fun token => entryKey? token.kind).pelim
      (.error (s.unexpected "a property key"))
      fun key found =>
        pursue (s.advance.expect .colon "':'") fun t colon => do
          let keyed := (advances_of_entryKey? found).trans (advances_of_expect colon)
          let ⟨(value, u), inner⟩ ← readExpression limit t
          (u.eat? .comma).pelim
            (pursue (u.expect .rightBrace "'\x7d'") fun v closed =>
              .ok ⟨([(key, value)], v), (keyed.trans inner).trans (advances_of_expect closed)⟩)
            fun v comma => do
              let separated := (keyed.trans inner).trans (advances_of_eat? comma)
              let ⟨(entries, w), rest⟩ ← readEntries limit v
              return ⟨((key, value) :: entries, w), separated.trans rest⟩)
    fun t closed => .ok ⟨([], t), advances_of_eat? closed⟩
termination_by (s.tokens.length, 1)
decreasing_by
  · exact .left _ _ keyed.fewer
  · exact .left _ _ separated.fewer

def readPrimary (limit : Nat) (s : ParserState) : Except CompileError (Taken Expr s) :=
  match shape : s.tokens with
  | [] => .error missingExpression
  | token :: _ =>
      let first := advances_of_tokens shape
      match token.kind with
      | .number value => .ok ⟨(.literal (.ofFloat value), s.advance), first⟩
      | .string value => .ok ⟨(.literal (.string value), s.advance), first⟩
      | .identifier name =>
          match wordLiteral? name with
          | some value => .ok ⟨(.literal value, s.advance), first⟩
          | none => .ok ⟨(.identifier name, s.advance), first⟩
      | .punct .leftParen => do
          let ⟨(e, t), inner⟩ ← readExpression limit s.advance
          pursue (t.expect .rightParen "')'") fun u close =>
            .ok ⟨(e, u), (first.trans inner).trans (advances_of_expect close)⟩
      | .punct .leftBracket =>
          pursue (s.advance.enter limit) fun inner entered => do
            let ⟨(items, t), taken⟩ ← readItems limit .rightBracket "']'" inner
            return ⟨(.array items, t.leave), first.trans (taken.leave entered)⟩
      | .punct .leftBrace =>
          pursue (s.advance.enter limit) fun inner entered => do
            let ⟨(entries, t), taken⟩ ← readEntries limit inner
            return ⟨(.object entries, t.leave), first.trans (taken.leave entered)⟩
      | .punct _ => .error (s.unexpected "an expression")
termination_by (s.tokens.length, 1)
decreasing_by
  · exact .left _ _ first.fewer
  · rw [tokens_of_enter entered]
    exact .left _ _ first.fewer
  · rw [tokens_of_enter entered]
    exact .left _ _ first.fewer

end

/-! ## The fuel never runs out -/

/-- The same result, but for what is known of it. -/
def Agrees {α : Type} {P : α → Prop} (x : Except CompileError α)
    (y : Except CompileError { a // P a }) : Prop :=
  x = y.map Subtype.val

namespace Agrees

variable {α β : Type} {P : α → Prop} {Q : β → Prop}

theorem ok (b : β) (known : Q b) : Agrees (.ok b) (.ok ⟨b, known⟩) := rfl

theorem error (error : CompileError) : Agrees (P := P) (.error error) (.error error) := rfl

theorem bind {x : Except CompileError α} {y : Except CompileError { a // P a }}
    {f : α → Except CompileError β} {g : { a // P a } → Except CompileError { b // Q b }}
    (first : Agrees x y) (next : ∀ a known, Agrees (f a) (g ⟨a, known⟩)) :
    Agrees (x >>= f) (y >>= g) := by
  rw [Agrees] at first
  subst first
  cases y with
  | error _ => exact .error _
  | ok a => exact next a.1 a.2

/-- What is returned as it is, with more known of it. -/
theorem known {x : Except CompileError α} {y : Except CompileError { a // P a }}
    {P' : α → Prop} {g : { a // P a } → Except CompileError { a // P' a }}
    (first : Agrees x y) (next : ∀ a known, Agrees (.ok a) (g ⟨a, known⟩)) :
    Agrees x (y >>= g) := by
  have bound : Agrees (x >>= pure) (y >>= g) := first.bind next
  rwa [bind_pure] at bound

theorem pursue {x : Except CompileError α} {f : α → Except CompileError β}
    {g : (a : α) → x = .ok a → Except CompileError { b // Q b }}
    (next : ∀ a found, Agrees (f a) (g a found)) : Agrees (x >>= f) (Expr.pursue x g) := by
  cases x with
  | error _ => exact .error _
  | ok a => exact next a rfl

theorem pelim {σ : Type} {o : Option σ} {x : Except CompileError β}
    {y : Except CompileError { b // Q b }}
    {g : (a : σ) → o = some a → Except CompileError { b // Q b }}
    (none : o = none → Agrees x y) (some : ∀ a found, Agrees x (g a found)) :
    Agrees x (o.pelim y g) := by
  cases o with
  | none => exact none rfl
  | some a => exact some a rfl

end Agrees

/-- The parsers have enough fuel: sixteen calls for each token, and some more to reach the first. -/
structure HasEnough (limit fuel : Nat) : Prop where
  expression : ∀ s, 16 * s.tokens.length + 13 ≤ fuel →
    Agrees (parseExpression limit fuel s) (readExpression limit s)
  conditional : ∀ s, 16 * s.tokens.length + 12 ≤ fuel →
    Agrees (parseConditional limit fuel s) (readConditional limit s)
  levels : ∀ ls s, ls.length ≤ 7 → 16 * s.tokens.length + (4 + ls.length) ≤ fuel →
    Agrees (parseLevels limit fuel ls s) (readLevels limit ls s)
  chain : ∀ level tighter left s, tighter.length ≤ 7 → 16 * s.tokens.length + 1 ≤ fuel →
    Agrees (parseChain limit fuel level tighter left s) (readChain limit level tighter left s)
  unary : ∀ s, 16 * s.tokens.length + 3 ≤ fuel →
    Agrees (parseUnary limit fuel s) (readUnary limit s)
  suffixed : ∀ s, 16 * s.tokens.length + 2 ≤ fuel →
    Agrees (parsePostfix limit fuel s) (readPostfix limit s)
  suffixes : ∀ e s, 16 * s.tokens.length + 1 ≤ fuel →
    Agrees (parseSuffixes limit fuel e s) (readSuffixes limit e s)
  items : ∀ close expected s, 16 * s.tokens.length + 14 ≤ fuel →
    Agrees (parseItems limit fuel close expected s) (readItems limit close expected s)
  entries : ∀ s, 16 * s.tokens.length + 1 ≤ fuel →
    Agrees (parseEntries limit fuel s) (readEntries limit s)
  primary : ∀ s, 16 * s.tokens.length + 1 ≤ fuel →
    Agrees (parsePrimary limit fuel s) (readPrimary limit s)

/-- A token that is taken pays for any one call. -/
theorem Advances.enough {fuel call next : Nat} (advances : Advances s t)
    (enough : 16 * s.tokens.length + call ≤ fuel + 1) (least : next ≤ 15 := by decide) :
    16 * t.tokens.length + next ≤ fuel := by
  have fewer := advances.fewer
  omega

theorem HasEnough.zero (limit : Nat) : HasEnough limit 0 := by
  constructor <;> intros <;> omega

theorem HasEnough.suffixesStep {fuel : Nat} (has : HasEnough limit fuel) (e : Expr)
    (s : ParserState) (enough : 16 * s.tokens.length + 1 ≤ fuel + 1) :
    Agrees (parseSuffixes limit (fuel + 1) e s) (readSuffixes limit e s) := by
  unfold parseSuffixes
  rw [readSuffixes]
  refine .pelim (fun noMark => ?_) fun mark next => ?_
  · rw [noMark]
    exact .ok _ _
  · have marked := advances_of_peekPunct next
    cases mark with
    | dot =>
        have named := marked.before (follows_advance s.advance)
        dsimp only
        rw [next]
        dsimp only
        cases s.advance.tokens with
        | nil => exact .error _
        | cons token rest =>
            obtain ⟨kind, i⟩ := token
            cases kind with
            | identifier name =>
                exact .known (has.suffixes _ _ (named.enough enough)) fun r rest => .ok _ _
            | _ => exact .error _
    | leftBracket =>
        dsimp only
        rw [next]
        refine .bind (has.expression s.advance (marked.enough enough)) fun r inner => ?_
        obtain ⟨property, t⟩ := r
        refine .pursue fun u close => ?_
        have indexed := (marked.trans inner).trans (advances_of_expect close)
        exact .known (has.suffixes _ u (indexed.enough enough)) fun r rest => .ok _ _
    | leftParen =>
        dsimp only
        rw [next]
        cases e with
        | identifier function =>
            refine .bind (has.items .rightParen "')'" s.advance (marked.enough enough))
              fun r inner => ?_
            obtain ⟨args, t⟩ := r
            have called := marked.trans inner
            exact .known (has.suffixes _ t (called.enough enough)) fun r rest => .ok _ _
        | _ => exact .error _
    | _ =>
        dsimp only
        rw [next]
        exact .ok _ _

theorem HasEnough.primaryStep {fuel : Nat} (has : HasEnough limit fuel) (s : ParserState)
    (enough : 16 * s.tokens.length + 1 ≤ fuel + 1) :
    Agrees (parsePrimary limit (fuel + 1) s) (readPrimary limit s) := by
  rw [parsePrimary, readPrimary]
  obtain ⟨tokens, depth⟩ := s
  cases tokens with
  | nil => exact .error _
  | cons token rest =>
      have first := advances_of_tokens (s := ⟨token :: rest, depth⟩) rfl
      obtain ⟨kind, i⟩ := token
      cases kind with
      | number value => exact .ok _ _
      | string value => exact .ok _ _
      | identifier name =>
          dsimp only
          cases wordLiteral? name <;> exact .ok _ _
      | punct mark =>
          cases mark with
          | leftParen =>
              refine .bind (has.expression _ (first.enough enough)) fun r inner => ?_
              obtain ⟨e, t⟩ := r
              exact .pursue fun u closed => .ok _ _
          | leftBracket =>
              refine .pursue fun inner entered => ?_
              refine .bind (has.items _ _ inner ?_) fun r taken => .ok _ _
              rw [tokens_of_enter entered]
              exact first.enough enough
          | leftBrace =>
              refine .pursue fun inner entered => ?_
              refine .bind (has.entries inner ?_) fun r taken => .ok _ _
              rw [tokens_of_enter entered]
              exact first.enough enough
          | _ => exact .error _

/-- One more call at the top: those below it have fewer tokens, or as many for a tighter phrase. -/
theorem HasEnough.succ {fuel : Nat} (has : HasEnough limit fuel) : HasEnough limit (fuel + 1) where
  expression s enough := by
    rw [parseExpression, readExpression]
    refine .pursue fun inner entered => .bind (has.conditional inner ?_) fun r taken => .ok _ _
    rw [tokens_of_enter entered]
    omega
  conditional s enough := by
    rw [parseConditional, readConditional]
    refine .bind (has.levels Expr.levels s (by decide) ?_) fun r first => ?_
    · rw [show Expr.levels.length = 7 from rfl]
      omega
    · obtain ⟨test, t⟩ := r
      refine .pelim (fun noQuestion => ?_) fun u question => ?_
      · dsimp only
        rw [noQuestion]
        exact .ok _ _
      · have asked := first.trans (advances_of_eat? question)
        dsimp only
        rw [question]
        refine .bind (has.expression u (asked.enough enough)) fun r second => ?_
        obtain ⟨consequent, v⟩ := r
        refine .pursue fun w colon => ?_
        have decided := (asked.trans second).trans (advances_of_expect colon)
        exact .bind (has.expression w (decided.enough enough)) fun r third => .ok _ _
  levels ls s few enough := by
    cases ls with
    | nil =>
        rw [parseLevels, readLevels]
        refine has.unary s ?_
        rw [List.length_nil] at enough
        omega
    | cons level tighter =>
        rw [List.length_cons] at few enough
        have fewer : tighter.length ≤ 7 := by omega
        rw [parseLevels, readLevels]
        refine .bind (has.levels tighter s fewer (by omega)) fun r first => ?_
        obtain ⟨left, t⟩ := r
        have rest := has.chain level tighter left t fewer (first.enough enough)
        exact .known rest fun r rest => .ok _ _
  chain level tighter left s few enough := by
    rw [parseChain, readChain]
    refine .pelim (fun noOperator => ?_) fun op next => ?_
    · rw [noOperator]
      exact .ok _ _
    · have marked := advances_of_next? next
      rw [next]
      refine .bind (has.levels tighter s.advance few (marked.enough enough (by omega)))
        fun r operand => ?_
      obtain ⟨right, t⟩ := r
      have rest := has.chain level tighter (op.apply left right) t few
        ((marked.trans operand).enough enough)
      exact .known rest fun r rest => .ok _ _
  unary s enough := by
    rw [parseUnary, readUnary]
    refine .pelim (fun noOperator => ?_) fun op found => ?_
    · rw [noOperator]
      exact has.suffixed s (by omega)
    · have marked := advances_of_unaryOperator? found
      rw [found]
      refine .pursue fun inner entered => .bind (has.unary inner ?_) fun r taken => .ok _ _
      rw [tokens_of_enter entered]
      exact marked.enough enough
  suffixed s enough := by
    rw [parsePostfix, readPostfix]
    refine .bind (has.primary s (by omega)) fun r first => ?_
    obtain ⟨e, t⟩ := r
    exact .known (has.suffixes e t (first.enough enough)) fun r rest => .ok _ _
  suffixes := has.suffixesStep
  items close expected s enough := by
    rw [parseItems, readItems]
    refine .pelim (fun others => ?_) fun t closed => ?_
    · rw [others]
      refine .bind (has.expression s (by omega)) fun r first => ?_
      obtain ⟨item, t⟩ := r
      refine .pelim (fun noComma => ?_) fun u comma => ?_
      · dsimp only
        rw [noComma]
        exact .pursue fun u closed => .ok _ _
      · have separated := first.trans (advances_of_eat? comma)
        dsimp only
        rw [comma]
        exact .bind (has.items close expected u (separated.enough enough)) fun r rest => .ok _ _
    · rw [closed]
      exact .ok _ _
  entries s enough := by
    rw [parseEntries, readEntries]
    refine .pelim (fun others => ?_) fun t closed => ?_
    · rw [others]
      refine .pelim (fun noKey => ?_) fun key found => ?_
      · dsimp only
        rw [noKey]
        exact .error _
      · dsimp only
        rw [found]
        refine .pursue fun t colon => ?_
        have keyed := (advances_of_entryKey? found).trans (advances_of_expect colon)
        refine .bind (has.expression t (keyed.enough enough)) fun r inner => ?_
        obtain ⟨value, u⟩ := r
        refine .pelim (fun noComma => ?_) fun v comma => ?_
        · dsimp only
          rw [noComma]
          exact .pursue fun v closed => .ok _ _
        · have separated := (keyed.trans inner).trans (advances_of_eat? comma)
          dsimp only
          rw [comma]
          exact .bind (has.entries v (separated.enough enough)) fun r rest => .ok _ _
    · rw [closed]
      exact .ok _ _
  primary := has.primaryStep

theorem hasEnough (limit fuel : Nat) : HasEnough limit fuel := by
  induction fuel with
  | zero => exact .zero limit
  | succ fuel ih => exact ih.succ

/-- The parser of a phrase, with nothing to bound its calls. -/
def Phrase.read (limit : Nat) :
    (p : Phrase) → (s : ParserState) → Except CompileError (Taken p.Tree s)
  | expression => readExpression limit
  | conditional => readConditional limit
  | chain level => readLevels limit (levels.drop level)
  | unary => readUnary limit
  | suffixed => readPostfix limit
  | primary => readPrimary limit
  | items bracket => readItems limit bracket.closing bracket.closingText
  | entries => readEntries limit

/-- All tokens as one expression, with nothing to bound the calls. -/
def readWithin (limit : Nat) (tokens : List Token) : Except CompileError Expr := do
  let ⟨(e, s), _⟩ ← readExpression limit ⟨tokens, 0⟩
  if s.tokens.isEmpty then
    if e.isWithinDepth limit then return e else throw (.limit .expressionDepth)
  else throw (s.unexpected "end of expression")

/-- The fuel of the tokens never runs out, whatever phrase they are taken for. -/
theorem parser_eq_read (limit : Nat) (p : Phrase) (s : ParserState) (more : Nat) :
    p.parser limit (parserFuel s.tokens + more) s = (p.read limit s).map Subtype.val := by
  have has := hasEnough limit (parserFuel s.tokens + more)
  have enough (calls : Nat) (few : calls ≤ 16) :
      16 * s.tokens.length + calls ≤ parserFuel s.tokens + more := by
    rw [parserFuel]
    omega
  cases p with
  | expression => exact has.expression s (enough 13 (by decide))
  | conditional => exact has.conditional s (enough 12 (by decide))
  | chain n =>
      have few : (levels.drop n).length ≤ 7 := by
        rw [List.length_drop]
        exact Nat.sub_le _ _
      exact has.levels _ s few (enough _ (by omega))
  | unary => exact has.unary s (enough 3 (by decide))
  | suffixed => exact has.suffixed s (enough 2 (by decide))
  | primary => exact has.primary s (enough 1 (by decide))
  | items bracket => exact has.items _ _ s (enough 14 (by decide))
  | entries => exact has.entries s (enough 1 (by decide))

theorem parseWithin_eq_readWithin (limit : Nat) (tokens : List Token) :
    parseWithin limit tokens = readWithin limit tokens := by
  have same := parser_eq_read limit .expression ⟨tokens, 0⟩ 0
  change parseExpression limit (parserFuel tokens) ⟨tokens, 0⟩ =
    (readExpression limit ⟨tokens, 0⟩).map Subtype.val at same
  rw [parseWithin, readWithin, same]
  cases readExpression limit ⟨tokens, 0⟩ <;> rfl

/-! ## Progress of the parser that runs -/

theorem Derives.length_pos {p : Phrase} {h : Nat} {ts : List Token} {e : p.Tree}
    (derives : Derives p h ts e) : 0 < ts.length := by
  obtain ⟨kind, i, more, rfl, -⟩ := derives.begins
  exact Nat.succ_pos _

/-- Whatever the fuel, a parser fails, or it goes on by at least one token, to the last one at
most, and leaves the nesting as it was. -/
theorem parser_progresses (limit : Nat) (p : Phrase) (tokens : List Token) (pos depth fuel : Nat) :
    (∃ error, p.parser limit fuel ⟨tokens.drop pos, depth⟩ = .error error) ∨
      ∃ e next, p.parser limit fuel ⟨tokens.drop pos, depth⟩ = .ok (e, ⟨tokens.drop next, depth⟩) ∧
        pos < next ∧ next ≤ tokens.length := by
  cases parsed : p.parser limit fuel ⟨tokens.drop pos, depth⟩ with
  | error error => exact .inl ⟨error, rfl⟩
  | ok r =>
      obtain ⟨e, ⟨rest, left⟩⟩ := r
      obtain ⟨ts, taken, same, derives⟩ := (isSound limit fuel).phrase p parsed
      dsimp only at taken same
      have first := derives.length_pos
      have sizes := congrArg List.length taken
      rw [List.length_drop, List.length_append] at sizes
      refine .inr ⟨e, pos + ts.length, ?_, by omega, by omega⟩
      rw [← List.drop_drop, taken, List.drop_left, same]

end Semblance.Expr
