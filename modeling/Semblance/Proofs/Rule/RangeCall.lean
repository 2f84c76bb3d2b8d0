import Semblance.Proofs.Expr.Completeness
import Semblance.Proofs.Rule.ScorerText
import Semblance.Proofs.Value.Number

/-!
# Range specs as calls

What a range spec says can also be said by an expression: a call of the built-in function of its
kind with the two values and the three numbers. No text is both. The two scorers read the values,
compare them and fail alike; they differ only in the error that they give for a value that is no
number.
-/

namespace Semblance

/-! ## Calls -/

namespace Expr

/-- A number as an expression: a literal, after a minus sign if the number has one. -/
def numeral (x : Float) : Expr :=
  if Value.isSignPositive x then .literal (.ofFloat x) else .unary .neg (.literal (.ofFloat (-x)))

def numeralKinds (x : Float) : List TokenKind :=
  if Value.isSignPositive x then [.number x] else [.punct .minus, .number (-x)]

/-- A numeral has the value of its number, sign of zero included. -/
theorem eval_numeral (scope : Scope) {x : Float} (finite : x.isFinite = true) :
    (numeral x).eval scope = .ok (.ofFloat x) := by
  unfold numeral
  split
  · rfl
  · have opposite : (-x).isFinite = true := (Binary64.isFinite_neg x).trans finite
    change Except.ok (Value.ofFloat (-(Value.ofFloat (-x)).toNumber)) = _
    rw [Value.toNumber_ofFloat opposite, Binary64.neg_neg]

/-- Tokens of these kinds, wherever they stand in a source, are an expression with that tree. -/
def Spells (h : Nat) (kinds : List TokenKind) (e : Expr) : Prop :=
  ∀ ts : List Token, ts.map (·.kind) = kinds → Derives .expression h ts e

/-- What can be an operand can be a whole expression. -/
theorem Derives.ofUnary {h : Nat} {ts : List Token} {e : Expr} (derives : Derives .unary h ts e) :
    Derives .expression (h + 1) ts e := by
  refine .expression (.unconditional ?_)
  iterate 7 refine .single (by decide) ?_
  exact .operand (by decide) derives

theorem not_wordLiteral {name : String} (other : wordLiteral? name = none) (value : Value) :
    ¬ WordLiteral name value := by
  rw [← wordLiteral?_eq_some_iff, other]
  exact nofun

theorem spells_identifier {name : String} (noWord : ∀ value, ¬ WordLiteral name value) (h : Nat) :
    Spells (h + 1) [.identifier name] (.identifier name) := by
  intro ts kinds
  obtain ⟨⟨kind, i⟩, rfl, rfl⟩ := List.map_eq_singleton_iff.mp kinds
  exact .ofUnary (.unmarked (.primary (.identifier noWord)))

theorem spells_numeral (x : Float) (h : Nat) : Spells (h + 2) (numeralKinds x) (numeral x) := by
  unfold numeralKinds numeral
  split
  · intro ts kinds
    obtain ⟨⟨kind, i⟩, rfl, rfl⟩ := List.map_eq_singleton_iff.mp kinds
    exact .ofUnary (.unmarked (.primary .number))
  · intro ts kinds
    obtain ⟨⟨mark, i⟩, rest, rfl, rfl, digits⟩ := List.map_eq_cons_iff.mp kinds
    obtain ⟨⟨kind, j⟩, rfl, rfl⟩ := List.map_eq_singleton_iff.mp digits
    exact .ofUnary (.marked .neg (.unmarked (.primary .number)))

/-- The kinds of the tokens of arguments, up to and with the closing parenthesis. -/
def argumentKinds (args : List (List TokenKind)) : List TokenKind :=
  List.intercalate [.punct .comma] args ++ [.punct .rightParen]

theorem derives_items {h : Nat} {args : List (List TokenKind)} {es : List Expr}
    (spelled : List.Forall₂ (Spells h) args es) (given : args ≠ []) {ts : List Token}
    (kinds : ts.map (·.kind) = argumentKinds args) : Derives (.items .round) h ts es := by
  induction spelled generalizing ts with
  | nil => exact absurd rfl given
  | @cons arg e args es first rest ih =>
      cases rest with
      | nil =>
          -- The last argument is followed by the parenthesis.
          obtain ⟨front, last, rfl, spelling, closing⟩ := List.map_eq_append_iff.mp kinds
          obtain ⟨⟨kind, i⟩, rfl, rfl⟩ := List.map_eq_singleton_iff.mp closing
          exact .lastItem (first front (spelling.trans (List.append_nil arg)))
      | @cons next f args es second rest =>
          have shape : argumentKinds (arg :: next :: args) =
              arg ++ .punct .comma :: argumentKinds (next :: args) := by
            simp [argumentKinds, List.intercalate]
          rw [shape] at kinds
          obtain ⟨front, back, rfl, spelling, more⟩ := List.map_eq_append_iff.mp kinds
          obtain ⟨⟨kind, i⟩, tail, rfl, rfl, others⟩ := List.map_eq_cons_iff.mp more
          exact .item (first front spelling) (ih (List.cons_ne_nil next args) others)

/-- The kinds of the tokens of a call. -/
def callKinds (function : String) (args : List (List TokenKind)) : List TokenKind :=
  .identifier function :: .punct .leftParen :: argumentKinds args

theorem spells_call {function : String} (noWord : ∀ value, ¬ WordLiteral function value) {h : Nat}
    {args : List (List TokenKind)} {es : List Expr} (spelled : List.Forall₂ (Spells h) args es)
    (given : args ≠ []) : Spells (h + 1) (callKinds function args) (.call function es) := by
  intro ts kinds
  obtain ⟨⟨name, i⟩, more, rfl, rfl, after⟩ := List.map_eq_cons_iff.mp kinds
  obtain ⟨⟨mark, j⟩, items, rfl, rfl, inner⟩ := List.map_eq_cons_iff.mp after
  have head : Derives .suffixed h [⟨.identifier function, i⟩] (.identifier function) :=
    .primary (.identifier noWord)
  exact .ofUnary (.unmarked (.call head (derives_items spelled given inner)))

end Expr

namespace RangeSpec

/-- The call that says what a range spec says. -/
def call (s : RangeSpec) : Expr :=
  .call s.kind.name [.identifier "l", .identifier "r",
    .numeral s.min, .numeral s.reference, .numeral s.max]

/-- The kinds of its tokens. -/
def callKinds (s : RangeSpec) : List Expr.TokenKind :=
  Expr.callKinds s.kind.name [[.identifier "l"], [.identifier "r"],
    Expr.numeralKinds s.min, Expr.numeralKinds s.reference, Expr.numeralKinds s.max]

theorem spells_call (s : RangeSpec) (h : Nat) : Expr.Spells (h + 3) s.callKinds s.call := by
  have function : Expr.wordLiteral? s.kind.name = none := by cases s.kind <;> rfl
  have left : Expr.Spells (h + 2) [.identifier "l"] (.identifier "l") :=
    Expr.spells_identifier (Expr.not_wordLiteral rfl) (h + 1)
  have right : Expr.Spells (h + 2) [.identifier "r"] (.identifier "r") :=
    Expr.spells_identifier (Expr.not_wordLiteral rfl) (h + 1)
  refine Expr.spells_call (Expr.not_wordLiteral function) ?_ (List.cons_ne_nil _ _)
  exact .cons left (.cons right (.cons (Expr.spells_numeral s.min h)
    (.cons (Expr.spells_numeral s.reference h) (.cons (Expr.spells_numeral s.max h) .nil))))

theorem depth_call_le (s : RangeSpec) : s.call.depth ≤ 3 := by
  have numeral (x : Float) : (Expr.numeral x).depth ≤ 2 := by
    unfold Expr.numeral
    split <;> simp [Expr.depth]
  have min := numeral s.min
  have reference := numeral s.reference
  have max := numeral s.max
  simp only [call, Expr.depth, Expr.depthItems]
  omega

/-- Tokens of the call are parsed into it. -/
theorem parse_call (s : RangeSpec) {tokens : List Expr.Token}
    (kinds : tokens.map (·.kind) = s.callKinds) : Expr.parse tokens = .ok s.call :=
  Expr.parseWithin_of_derives (s.spells_call 61 tokens kinds) (Nat.le_refl _)
    (s.depth_call_le.trans (by decide))

end RangeSpec

namespace Scorer

/-- A source that spells the call is not read as a range spec, and compiles to the call. -/
theorem compile_call (s : RangeSpec) {source : String} {tokens : List Expr.Token}
    (short : source.utf8ByteSize ≤ maxExpressionLength)
    (lexed : Expr.tokenize source = .ok tokens) (kinds : tokens.map (·.kind) = s.callKinds) :
    compile (some source) = .ok (.expression ⟨source, params, s.call⟩) := by
  have compiled : Expression.compile source params = .ok ⟨source, params, s.call⟩ :=
    Expression.compile_eq_ok_iff.mpr
      ⟨if_neg (Nat.not_lt.mpr short), tokens, lexed, s.call, s.parse_call kinds, rfl⟩
  exact compile_of_expression compiled

/-! ## Readings -/

/-- The value reads as a number. -/
def HasReading (value : Value) : Prop := value.toNumber.isNaN = false

/-- A conversion gives the numeric reading of each value that has one, and fails for all others. -/
structure IsReading (read : Value → Except EvalError Float) : Prop where
  ok {value : Value} : HasReading value → read value = .ok value.toNumber
  error {value : Value} : ¬ HasReading value → ∃ e, read value = .error e

/-- Two conversions may differ in the error for what is no number. -/
theorem isReading_of_eq {read : Value → Except EvalError Float} (failure : Value → EvalError)
    (same : ∀ value, read value =
      if value.toNumber.isNaN then .error (failure value) else .ok value.toNumber) :
    IsReading read where
  ok {value} reads := by
    rw [same, if_neg (ne_true_of_eq_false reads)]
  error {value} unread := by
    rw [same, if_pos (eq_true_of_ne_false unread)]
    exact ⟨failure value, rfl⟩

theorem isReading_operand : IsReading operand :=
  isReading_of_eq (fun value => .notANumber value.kindName) fun _ => rfl

theorem isReading_numberArgument (function : String) :
    IsReading (Builtin.numberArgument function) :=
  isReading_of_eq
    (fun value => .function function s!"expected a number, got {value.kindName}") fun _ => rfl

/-- What is computed of two readings, and a failure if one of them is missing. -/
theorem IsReading.both {read : Value → Except EvalError Float} (reading : IsReading read)
    (compare : Float → Float → Value) (l r : Value) :
    let result := do return compare (← read l) (← read r)
    (HasReading l ∧ HasReading r → result = .ok (compare l.toNumber r.toNumber)) ∧
      (¬ (HasReading l ∧ HasReading r) → ∃ e, result = .error e) := by
  constructor
  · rintro ⟨left, right⟩
    rw [reading.ok left, reading.ok right]
    rfl
  · intro unread
    by_cases left : HasReading l
    · obtain ⟨e, failed⟩ := reading.error fun right => unread ⟨left, right⟩
      rw [reading.ok left, failed]
      exact ⟨e, rfl⟩
    · obtain ⟨e, failed⟩ := reading.error left
      rw [failed]
      exact ⟨e, rfl⟩

theorem numberArgument_ofFloat (function : String) {x : Float} (finite : x.isFinite = true) :
    Builtin.numberArgument function (.ofFloat x) = .ok x := by
  have same := Value.toNumber_ofFloat finite
  have reads : HasReading (.ofFloat x) := by
    rw [HasReading, same]
    exact Value.isNaN_eq_false_of_isFinite finite
  rw [(isReading_numberArgument function).ok reads, same]

/-- A comparator, given the numbers of a range. -/
theorem closeness_eq {function : String}
    {compare : Float → Float → Float → Float → Float → Float} {min reference max : Float}
    (minFinite : min.isFinite = true) (referenceFinite : reference.isFinite = true)
    (maxFinite : max.isFinite = true) (l r : Value) :
    Builtin.closeness function compare [l, r, .ofFloat min, .ofFloat reference, .ofFloat max] =
      (do
        let x ← Builtin.numberArgument function l
        let y ← Builtin.numberArgument function r
        return .ofFloat (compare x y min reference max)) := by
  have numbers := numberArgument_ofFloat function minFinite
  have references := numberArgument_ofFloat function referenceFinite
  have maxima := numberArgument_ofFloat function maxFinite
  change (do
    let x ← Builtin.numberArgument function l
    let y ← Builtin.numberArgument function r
    let min ← Builtin.numberArgument function (.ofFloat min)
    let reference ← Builtin.numberArgument function (.ofFloat reference)
    let max ← Builtin.numberArgument function (.ofFloat max)
    return Value.ofFloat (compare x y min reference max)) = _
  rw [numbers, references, maxima]
  rfl

/-- The built-in function of the kind of a range spec compares as the spec does. -/
theorem exists_builtin {s : RangeSpec} (finite : s.IsFinite) :
    ∃ native, Builtin.find? s.kind.name = some native ∧ ∀ l r,
      native [l, r, .ofFloat s.min, .ofFloat s.reference, .ofFloat s.max] =
        (do
          let x ← Builtin.numberArgument s.kind.name l
          let y ← Builtin.numberArgument s.kind.name r
          return .ofFloat (s.score x y)) := by
  obtain ⟨kind, min, reference, max⟩ := s
  cases kind with
  | linear => exact ⟨_, rfl, closeness_eq finite.min finite.reference finite.max⟩
  | gaussian => exact ⟨_, rfl, closeness_eq finite.min finite.reference finite.max⟩

/-- The call reads the two values and compares them as the range spec does. -/
theorem eval_call {s : RangeSpec} (finite : s.IsFinite) {ns : Namespace}
    (builtin : ns.function? s.kind.name = none) (source : String) (l r : Value) :
    (⟨source, params, s.call⟩ : Expression).eval [l, r] ns =
      (do
        let x ← Builtin.numberArgument s.kind.name l
        let y ← Builtin.numberArgument s.kind.name r
        return .ofFloat (s.score x y)) := by
  obtain ⟨native, found, compares⟩ := exists_builtin finite
  let scope : Scope := { params, args := [l, r], locals := [], ns }
  have args : Expr.evalItems scope
      [.identifier "l", .identifier "r", .numeral s.min, .numeral s.reference, .numeral s.max] =
        .ok [l, r, .ofFloat s.min, .ofFloat s.reference, .ofFloat s.max] := by
    simp only [Expr.evalItems, Expr.eval_numeral scope finite.min,
      Expr.eval_numeral scope finite.reference, Expr.eval_numeral scope finite.max]
    rfl
  change (do
    let values ← Expr.evalItems scope _
    scope.call s.kind.name values) = _
  rw [args, Expr.ok_bind, Scope.call, builtin, found]
  exact compares l r

/-! ## Scores -/

/-- A computed number makes a score without errors, also where it is no number. -/
theorem errors_ofResult_ofFloat (x : Float) : (Score.ofResult (.ok (.ofFloat x))).errors = [] := by
  rcases Value.ofFloat_eq_null_or_number x with shape | ⟨n, shape⟩ <;> rw [shape] <;> rfl

/-- A range spec and the call that says the same give the same score for every two values and in
every namespace that leaves the built-in function in place; every source that spells the call is a
scorer with that tree. If one of the values does not read as a number, both scorers fail, each with
one error of its own. -/
theorem score_range_eq_score_call (s : RangeSpec) (finite : s.IsFinite) :
    (∀ source tokens, source.utf8ByteSize ≤ maxExpressionLength →
      Expr.tokenize source = .ok tokens → tokens.map (·.kind) = s.callKinds →
      compile (some source) = .ok (.expression ⟨source, params, s.call⟩)) ∧
    ∀ (source : String) (ns : Namespace), ns.function? s.kind.name = none → ∀ l r : Value,
      let written := (range s).score l r ns
      let called := (expression ⟨source, params, s.call⟩).score l r ns
      written.achieved = called.achieved ∧ written.possible = called.possible ∧
        (HasReading l ∧ HasReading r → written.errors = [] ∧ called.errors = []) ∧
        (¬ (HasReading l ∧ HasReading r) →
          (∃ e, written = ⟨0.0, 1.0, [.eval e]⟩) ∧ ∃ e, called = ⟨0.0, 1.0, [.eval e]⟩) := by
  refine ⟨fun source tokens => compile_call s, ?_⟩
  intro source ns builtin l r
  dsimp only [score]
  rw [eval_call finite builtin source l r]
  obtain ⟨read, unread⟩ := isReading_operand.both (fun x y => .ofFloat (s.score x y)) l r
  obtain ⟨readArgs, unreadArgs⟩ :=
    (isReading_numberArgument s.kind.name).both (fun x y => .ofFloat (s.score x y)) l r
  by_cases readable : HasReading l ∧ HasReading r
  · have written := read readable
    have called := readArgs readable
    rw [compareNumbers, written, called]
    refine ⟨rfl, rfl, fun _ => ?_, fun unreadable => absurd readable unreadable⟩
    exact ⟨errors_ofResult_ofFloat _, errors_ofResult_ofFloat _⟩
  · obtain ⟨e, written⟩ := unread readable
    obtain ⟨f, called⟩ := unreadArgs readable
    rw [compareNumbers, written, called]
    exact ⟨rfl, rfl, fun reads => absurd reads readable, fun _ => ⟨⟨e, rfl⟩, ⟨f, rfl⟩⟩⟩

/-- A range that starts below zero, with values of which one is a text, and then with a map. -/
theorem score_range_eq_score_call_negative :
    let s : RangeSpec := ⟨.linear, -5.0, 0.5, 10.0⟩
    let source := "linear(l, r, -5, 0.5, 10)"
    let written := (range s).score
    let called := (expression ⟨source, params, s.call⟩).score
    s.IsFinite ∧ compile (some source) = .ok (.expression ⟨source, params, s.call⟩) ∧
      (written (.string "7") (.bool true) {}).achieved =
        (called (.string "7") (.bool true) {}).achieved ∧
      (∃ e, written (.object []) .null {} = ⟨0.0, 1.0, [.eval e]⟩) ∧
      ∃ e, called (.object []) .null {} = ⟨0.0, 1.0, [.eval e]⟩ := by
  intro s source written called
  have finite : s.IsFinite :=
    ⟨by decide +kernel, by decide +kernel, by decide +kernel⟩
  have lexed : Expr.tokenize source = .ok [
      ⟨.identifier "linear", 0⟩, ⟨.punct .leftParen, 6⟩, ⟨.identifier "l", 7⟩,
      ⟨.punct .comma, 8⟩, ⟨.identifier "r", 10⟩, ⟨.punct .comma, 11⟩,
      ⟨.punct .minus, 13⟩, ⟨.number 5.0, 14⟩, ⟨.punct .comma, 15⟩, ⟨.number 0.5, 17⟩,
      ⟨.punct .comma, 20⟩, ⟨.number 10.0, 22⟩, ⟨.punct .rightParen, 24⟩] := by
    decide +kernel
  obtain ⟨compiles, scores⟩ := score_range_eq_score_call s finite
  have alike := scores source {} rfl
  have unread : ¬ (HasReading (.object []) ∧ HasReading .null) := by
    unfold HasReading
    decide +kernel
  refine ⟨finite, compiles source _ (by decide +kernel) lexed (by decide +kernel), ?_, ?_⟩
  · exact (alike (.string "7") (.bool true)).1
  · exact (alike (.object []) .null).2.2.2 unread

end Scorer

end Semblance
