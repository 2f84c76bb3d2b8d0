import Semblance.Expr.Eval
import Semblance.Proofs.Decimal.RoundTrip
import Semblance.Proofs.Expr.Depth
import Semblance.Proofs.Expr.Scanning
import Semblance.Proofs.Expr.Steps
import Semblance.Proofs.Value.Coercion
import Semblance.Proofs.Value.Number

/-!
# Literals of numbers

A source that is one number is parsed into a literal. In every scope the literal evaluates to that
number, and a name that is bound to an equal one takes its place in any comparison. Digits that are
too many for a binary64 number are read as infinity, which no value holds: such a literal is null.
-/

namespace Semblance

/-! ## Comparisons of equal values -/

namespace Value

open Float.Model Binary64

variable {x y : Float} {a b : Value}

theorem eq_or_isZero_of_sameReading (same : SameReading x y) : x = y ∨ IsZero x ∧ IsZero y := by
  rcases same with equal | ⟨left, right⟩
  · exact ((beq_iff x y).mp equal).imp_left And.right
  · rw [isNaN_eq] at left right
    refine .inl (parts_injective ?_)
    cases first : parts x <;> rw [first] at left <;> cases left
    cases second : parts y <;> rw [second] at right <;> cases right

/-- The sign of a zero has no part in a comparison. -/
theorem comparisons_zero (u : UnpackedFloat) (s t : UnpackedFloat.Sign) :
    (UnpackedFloat.zero s).lt u = (UnpackedFloat.zero t).lt u ∧
      (UnpackedFloat.zero s).beq u = (UnpackedFloat.zero t).beq u ∧
      u.lt (.zero s) = u.lt (.zero t) ∧ u.beq (.zero s) = u.beq (.zero t) := by
  cases u with
  | notANumber => cases s <;> cases t <;> exact ⟨rfl, rfl, rfl, rfl⟩
  | infinity r => cases r <;> cases s <;> cases t <;> exact ⟨rfl, rfl, rfl, rfl⟩
  | zero r => cases r <;> cases s <;> cases t <;> exact ⟨rfl, rfl, rfl, rfl⟩
  | finite r m e pos => cases r <;> cases s <;> cases t <;> exact ⟨rfl, rfl, rfl, rfl⟩

/-- Equal values stand in the same order to any third one. -/
theorem compare?_eq_of_strictEq (equal : a.strictEq b = true) (c : Value) :
    a.compare? c = b.compare? c ∧ c.compare? a = c.compare? b := by
  rcases eq_or_isZero_of_sameReading (sameReading_of_strictEq equal) with same | ⟨left, right⟩
  · cases strictEq_iff.mp equal <;> cases c <;> simp only [compare?, same, and_self]
  · obtain ⟨s, left⟩ := left
    obtain ⟨t, right⟩ := right
    have zero (u : UnpackedFloat) := comparisons_zero u s t
    cases strictEq_iff.mp equal <;> cases c <;>
      simp only [compare?, lt_iff, beq_eq, left, right, zero, and_self]

end Value

/-- The operator compares its operands, for equality or for their order. -/
def BinaryOp.compares : BinaryOp → Bool
  | equal | notEqual | less | lessEqual | greater | greaterEqual => true
  | add | sub | mul | div | rem => false

theorem BinaryOp.apply_eq_of_strictEq {op : BinaryOp} {a b : Value} (compares : op.compares = true)
    (equal : a.strictEq b = true) (c : Value) :
    op.apply a c = op.apply b c ∧ op.apply c a = op.apply c b := by
  have right := Value.strictEq_congr_right c equal
  have left : a.strictEq c = b.strictEq c := by
    rw [Value.strictEq_comm a, Value.strictEq_comm b, right]
  obtain ⟨before, after⟩ := Value.compare?_eq_of_strictEq equal c
  cases op with
  | add | sub | mul | div | rem => cases compares
  | equal | notEqual => simp only [apply, left, right, and_self]
  | less | lessEqual | greater | greaterEqual => simp only [apply, before, after, and_self]

namespace Expr

open Text

variable {c : Char} {cs : List Char} {offset : Nat} {tokens : List Token} {x : Float} {e : Expr}

/-! ## Numbers among the tokens -/

namespace Lexer

theorem toLower_digit (digit : isAsciiDigit c = true) : c.toLower = c := by
  simp only [isAsciiDigit, Bool.and_eq_true, decide_eq_true_eq, Char.le_def] at digit
  unfold Char.toLower
  split
  · rename_i upper
    exact absurd (UInt32.le_trans upper.1 digit.2) (by decide)
  · rfl

/-- What begins with a digit is none of the words for numbers. -/
theorem readFloat_digit (digit : isAsciiDigit c = true) (cs : List Char) :
    Decimal.readFloat (c :: cs) = Decimal.readUnsigned (c :: cs) := by
  have other {d : Char} (letter : isAsciiDigit d = false) : c ≠ d := by
    rintro rfl
    rw [digit] at letter
    cases letter
  have word : Decimal.readWord (c :: cs) = none := by
    simp [Decimal.readWord, toLower_digit digit, other (d := 'i') (by decide),
      other (d := 'n') (by decide)]
  rw [Decimal.readFloat, Decimal.readSign_digit digit]
  cases read : Decimal.readUnsigned (c :: cs) <;> simp [read, word]

theorem isNaN_of_scans {rest after : List Char} (scans : Scans c rest (.number x) after) :
    x.isNaN = false := by
  cases scans with
  | number digit scanned reads =>
      -- The number begins with the character that the scanner starts at.
      simp only [scanNumber, NumberState.next, digit, if_true, Prod.mk.injEq] at scanned
      obtain ⟨rfl, -⟩ := scanned
      rw [readFloat_digit digit] at reads
      exact Binary64.isNaN_of_readUnsigned reads

theorem isNaN_of_tokensFrom (read : tokensFrom offset cs = .ok tokens) :
    ∀ token ∈ tokens, ∀ x, token.kind = .number x → x.isNaN = false := by
  fun_induction tokensFrom offset cs generalizing tokens with
  | case1 =>
      cases read
      nofun
  | case2 offset c rest blank ih => exact ih read
  | case3 => cases read
  | case4 => cases read
  | case5 offset c rest seen kind after scanned tokens inner ih =>
      cases read
      refine List.forall_mem_cons.mpr ⟨?_, ih inner⟩
      rintro x rfl
      exact isNaN_of_scans (scanToken_eq_ok_iff.mp scanned)

end Lexer

/-! ## Literals -/

theorem parse_number (x : Float) (offset : Nat) :
    parse [⟨.number x, offset⟩] = .ok (.literal (.ofFloat x)) := by
  have expression : parseExpression maxExpressionDepth (parserFuel [⟨.number x, offset⟩])
      ⟨[⟨.number x, offset⟩], 0⟩ = .ok (.literal (.ofFloat x), ⟨[], 0⟩) := rfl
  have shallow : (literal (.ofFloat x)).isWithinDepth maxExpressionDepth = true :=
    (isWithinDepth_iff _ _).mpr (by simp [depth, maxExpressionDepth])
  rw [parse, parseWithin, expression, ok_bind]
  dsimp only [List.isEmpty_nil]
  rw [if_pos rfl, if_pos shallow]
  rfl

/-- The expression is a number in every scope, and a name that is bound to that number, held in
whatever way, can be put for it on either side of a comparison. -/
structure Denotes (e : Expr) (x : Float) : Prop where
  eval_eq : ∃ n : Number, n.toFloat = x ∧ ∀ scope, e.eval scope = .ok (.number n)
  compares {scope : Scope} {name : String} {m : Number} {op : BinaryOp}
    (bound : scope.resolve? name = some (.number m)) (equal : (m.toFloat == x) = true)
    (compares : op.compares = true) (other : Expr) :
    (binary op e other).eval scope = (binary op (identifier name) other).eval scope ∧
      (binary op other e).eval scope = (binary op other (identifier name)).eval scope

/-- Operands with equal values compare alike. -/
theorem eval_comparison_congr {scope : Scope} {f : Expr} {a b : Value} {op : BinaryOp}
    (first : e.eval scope = .ok a) (second : f.eval scope = .ok b) (equal : a.strictEq b = true)
    (compares : op.compares = true) (other : Expr) :
    (binary op e other).eval scope = (binary op f other).eval scope ∧
      (binary op other e).eval scope = (binary op other f).eval scope := by
  have left (c : Value) := (BinaryOp.apply_eq_of_strictEq compares equal c).1
  have right (c : Value) := (BinaryOp.apply_eq_of_strictEq compares equal c).2
  simp only [eval, first, second, ok_bind, left, right, and_self]

theorem denotes_of_eval {n : Number} (value : ∀ scope, e.eval scope = .ok (.number n)) :
    Denotes e n.toFloat where
  eval_eq := ⟨n, rfl, value⟩
  compares {scope name m op} bound equal compares other := by
    have named : (identifier name).eval scope = .ok (.number m) := by rw [eval, bound]
    have same : (Value.number n).strictEq (.number m) = true := by
      rwa [Value.strictEq_comm, Value.strictEq]
    exact eval_comparison_congr (value scope) named same compares other

/-- A source that is one number, read as such, is compiled into an expression for it. The number may
be finite, and then the expression denotes it; or it is infinite, and the expression is null. -/
theorem denotes_of_tokenize {source : String} (read : tokenize source = .ok [⟨.number x, offset⟩]) :
    ∃ e, parse [⟨.number x, offset⟩] = .ok e ∧
      (checkExpressionLength source = .ok () →
        ∀ params, Expression.compile source params = .ok ⟨source, params, e⟩) ∧
      (x.isFinite = true → Denotes e x) ∧
      (x.isFinite = false → x.isInf = true ∧ ∀ scope, e.eval scope = .ok .null) := by
  refine ⟨_, parse_number x offset, ?_, ?_, ?_⟩
  · intro short params
    simp only [Expression.compile, short, read, parse_number, ok_bind]
    rfl
  · intro finite
    obtain ⟨n, held⟩ := Value.exists_ofFloat_eq_number finite
    rw [held, ← Value.toFloat_of_ofFloat_eq_number held]
    exact denotes_of_eval fun scope => by rw [eval]
  · intro infinite
    have number : x.isNaN = false :=
      Lexer.isNaN_of_tokensFrom read _ List.mem_cons_self x rfl
    refine ⟨Binary64.isInf_of_not_isFinite number (by rw [infinite]; nofun), fun scope => ?_⟩
    rw [eval, Value.ofFloat_eq_null infinite]

/-- A blank, zeros in front, a point and an exponent are all part of how a number may be written. -/
theorem denotes_of_tokenize_scaled :
    let source := " 090.0e-1"
    tokenize source = .ok [⟨.number 9.0, 1⟩] ∧ (9.0 : Float).isFinite = true ∧
      ∃ e, Expression.compile source ["n"] = .ok ⟨source, ["n"], e⟩ ∧ Denotes e 9.0 := by
  intro source
  have read : tokenize source = .ok [⟨.number 9.0, 1⟩] := by decide +kernel
  have finite : (9.0 : Float).isFinite = true := by decide +kernel
  obtain ⟨e, -, compiles, denotes, -⟩ := denotes_of_tokenize read
  exact ⟨read, finite, e, compiles (by decide +kernel) ["n"], denotes finite⟩

/-- Not every number that is read denotes one: it may be null, and equal to it. -/
theorem exists_number_evaluated_to_null :
    ∃ x e, tokenize "1e999" = .ok [⟨.number x, 0⟩] ∧ parse [⟨.number x, 0⟩] = .ok e ∧
      ∀ scope : Scope, e.eval scope = .ok .null ∧
        (binary .equal e (literal .null)).eval scope = .ok (.bool true) := by
  have infinite : Value.ofFloat (1.0 / 0.0) = .null := Value.ofFloat_eq_null (by decide +kernel)
  refine ⟨1.0 / 0.0, literal .null, by decide +kernel, ?_, fun scope => ⟨by rw [eval], ?_⟩⟩
  · rw [parse_number, infinite]
  · simp only [eval, ok_bind, BinaryOp.apply, Value.strictEq]
    rfl

end Expr

end Semblance
