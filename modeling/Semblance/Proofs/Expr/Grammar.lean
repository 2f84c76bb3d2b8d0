import Semblance.Expr.Parser

/-!
# The grammar of expressions

Which tokens stand for which tree, said without reading them in any order. Operators of two operands
stand on seven levels, from the loosest to the tightest, and a chain of one level groups to the
left. Below the tightest level are the unary operators, and below these the members, indexes and
calls.
-/

namespace Semblance.Expr

/-! ## Marks, words and keys -/

/-- The marks between two operands, with the level on which each stands. -/
inductive BinaryMark : Nat → Punct → Operator → Prop where
  | coalesce : BinaryMark 0 .coalesce (.logical .coalesce)
  | or : BinaryMark 1 .or (.logical .or)
  | and : BinaryMark 2 .and (.logical .and)
  | equal : BinaryMark 3 .equal (.binary .equal)
  | same : BinaryMark 3 .same (.binary .equal)
  | notEqual : BinaryMark 3 .notEqual (.binary .notEqual)
  | notSame : BinaryMark 3 .notSame (.binary .notEqual)
  | less : BinaryMark 4 .less (.binary .less)
  | lessEqual : BinaryMark 4 .lessEqual (.binary .lessEqual)
  | greater : BinaryMark 4 .greater (.binary .greater)
  | greaterEqual : BinaryMark 4 .greaterEqual (.binary .greaterEqual)
  | add : BinaryMark 5 .plus (.binary .add)
  | sub : BinaryMark 5 .minus (.binary .sub)
  | mul : BinaryMark 6 .star (.binary .mul)
  | div : BinaryMark 6 .slash (.binary .div)
  | rem : BinaryMark 6 .percent (.binary .rem)

/-- The marks before an operand. -/
inductive UnaryMark : Punct → UnaryOp → Prop where
  | not : UnaryMark .not .not
  | neg : UnaryMark .minus .neg
  | plus : UnaryMark .plus .plus

/-- The names that stand for values. -/
inductive WordLiteral : String → Value → Prop where
  | true : WordLiteral "true" (.bool true)
  | false : WordLiteral "false" (.bool false)
  | null : WordLiteral "null" .null
  | undefined : WordLiteral "undefined" .null

/-- The tokens that may be the key of an entry. -/
inductive EntryKey : TokenKind → String → Prop where
  | identifier (name : String) : EntryKey (.identifier name) name
  | string (name : String) : EntryKey (.string name) name
  | number (value : Float) : EntryKey (.number value) (Value.numberText value)

/-- The brackets around the arguments of a call, and around the items of an array. -/
inductive Bracket where
  | round
  | square

def Bracket.closing : Bracket → Punct
  | round => .rightParen
  | square => .rightBracket

/-! ## Phrases -/

/-- What tokens may derive. A chain joins operands by the operators of a level; from level seven on
there are none, so that the chain is a single operand. -/
inductive Phrase where
  | expression
  | conditional
  | chain (level : Nat)
  | unary
  | suffixed
  | primary
  /-- Expressions separated by commas, up to and with the closing bracket. -/
  | items (bracket : Bracket)
  /-- The entries of an object, up to and with the closing brace. -/
  | entries

/-- What stands for a phrase in a tree. -/
abbrev Phrase.Tree : Phrase → Type
  | items _ => List Expr
  | entries => List (String × Expr)
  | expression | conditional | chain _ | unary | suffixed | primary => Expr

/-- `Derives p h tokens tree` says that the tokens are a phrase with the tree, in which expressions,
operators before an operand, arrays and objects are nested at most `h` deep. -/
inductive Derives : (p : Phrase) → Nat → List Token → p.Tree → Prop where
  | expression {h ts e} :
      Derives .conditional h ts e → Derives .expression (h + 1) ts e
  | unconditional {h ts e} :
      Derives (.chain 0) h ts e → Derives .conditional h ts e
  | conditional {h ts us vs test consequent alternate i j} :
      Derives (.chain 0) h ts test → Derives .expression h us consequent →
      Derives .expression h vs alternate →
      Derives .conditional h (ts ++ ⟨.punct .question, i⟩ :: us ++ ⟨.punct .colon, j⟩ :: vs)
        (.conditional test consequent alternate)
  | single {level h ts e} :
      level < 7 → Derives (.chain (level + 1)) h ts e → Derives (.chain level) h ts e
  | joined {level mark op h ts us left right i} :
      BinaryMark level mark op → Derives (.chain level) h ts left →
      Derives (.chain (level + 1)) h us right →
      Derives (.chain level) h (ts ++ ⟨.punct mark, i⟩ :: us) (op.apply left right)
  | operand {level h ts e} :
      7 ≤ level → Derives .unary h ts e → Derives (.chain level) h ts e
  | unmarked {h ts e} :
      Derives .suffixed h ts e → Derives .unary h ts e
  | marked {mark op h ts e i} :
      UnaryMark mark op → Derives .unary h ts e →
      Derives .unary (h + 1) (⟨.punct mark, i⟩ :: ts) (.unary op e)
  | primary {h ts e} :
      Derives .primary h ts e → Derives .suffixed h ts e
  | member {h ts e name i j} :
      Derives .suffixed h ts e →
      Derives .suffixed h (ts ++ [⟨.punct .dot, i⟩, ⟨.identifier name, j⟩])
        (.member e (.literal (.string name)))
  | index {h ts us e property i j} :
      Derives .suffixed h ts e → Derives .expression h us property →
      Derives .suffixed h (ts ++ ⟨.punct .leftBracket, i⟩ :: us ++ [⟨.punct .rightBracket, j⟩])
        (.member e property)
  | call {h ts us function args i} :
      Derives .suffixed h ts (.identifier function) → Derives (.items .round) h us args →
      Derives .suffixed h (ts ++ ⟨.punct .leftParen, i⟩ :: us) (.call function args)
  | number {h value i} :
      Derives .primary h [⟨.number value, i⟩] (.literal (.ofFloat value))
  | string {h value i} :
      Derives .primary h [⟨.string value, i⟩] (.literal (.string value))
  | word {h name value i} :
      WordLiteral name value → Derives .primary h [⟨.identifier name, i⟩] (.literal value)
  | identifier {h name i} :
      (∀ value, ¬ WordLiteral name value) →
      Derives .primary h [⟨.identifier name, i⟩] (.identifier name)
  | grouped {h ts e i j} :
      Derives .expression h ts e →
      Derives .primary h (⟨.punct .leftParen, i⟩ :: ts ++ [⟨.punct .rightParen, j⟩]) e
  | array {h ts items i} :
      Derives (.items .square) h ts items →
      Derives .primary (h + 1) (⟨.punct .leftBracket, i⟩ :: ts) (.array items)
  | object {h ts entries i} :
      Derives .entries h ts entries →
      Derives .primary (h + 1) (⟨.punct .leftBrace, i⟩ :: ts) (.object entries)
  | noItem {bracket h i} :
      Derives (.items bracket) h [⟨.punct bracket.closing, i⟩] []
  | lastItem {bracket h ts e i} :
      Derives .expression h ts e →
      Derives (.items bracket) h (ts ++ [⟨.punct bracket.closing, i⟩]) [e]
  | item {bracket h ts us e items i} :
      Derives .expression h ts e → Derives (.items bracket) h us items →
      Derives (.items bracket) h (ts ++ ⟨.punct .comma, i⟩ :: us) (e :: items)
  | noEntry {h i} :
      Derives .entries h [⟨.punct .rightBrace, i⟩] []
  | lastEntry {h kind key ts e i j k} :
      EntryKey kind key → Derives .expression h ts e →
      Derives .entries h (⟨kind, i⟩ :: ⟨.punct .colon, j⟩ :: ts ++ [⟨.punct .rightBrace, k⟩])
        [(key, e)]
  | entry {h kind key ts us e entries i j k} :
      EntryKey kind key → Derives .expression h ts e → Derives .entries h us entries →
      Derives .entries h (⟨kind, i⟩ :: ⟨.punct .colon, j⟩ :: ts ++ ⟨.punct .comma, k⟩ :: us)
        ((key, e) :: entries)

/-! ## The tables of the parser -/

theorem drop_levels_eq_nil {n : Nat} (beyond : 7 ≤ n) : levels.drop n = [] :=
  List.drop_eq_nil_of_le beyond

theorem lookup_levels_iff {n : Nat} {level : Level} {tighter : List Level} {mark : Punct}
    {op : Operator} (here : levels.drop n = level :: tighter) :
    level.lookup mark = some op ↔ BinaryMark n mark op := by
  constructor
  · -- Each of the seven levels is compared with the table, mark by mark.
    intro found
    match n, here with
    | 0, rfl | 1, rfl | 2, rfl | 3, rfl | 4, rfl | 5, rfl | 6, rfl =>
        cases mark <;> cases found <;> constructor
    | n + 7, here =>
        rw [drop_levels_eq_nil (Nat.le_add_left 7 n)] at here
        cases here
  · intro stands
    cases stands <;> cases here <;> rfl

theorem drop_levels_eq_cons {n : Nat} (inside : n < 7) :
    ∃ level, levels.drop n = level :: levels.drop (n + 1) :=
  ⟨levels[n], List.drop_eq_getElem_cons inside⟩

theorem drop_levels_succ {n : Nat} {level : Level} {tighter : List Level}
    (here : levels.drop n = level :: tighter) : n < 7 ∧ tighter = levels.drop (n + 1) := by
  by_cases inside : n < 7
  · obtain ⟨first, split⟩ := drop_levels_eq_cons inside
    rw [split] at here
    cases here
    exact ⟨inside, rfl⟩
  · rw [drop_levels_eq_nil (Nat.not_lt.mp inside)] at here
    cases here

theorem unaryOperator?_eq_some_iff {mark : Punct} {op : UnaryOp} :
    unaryOperator? (some mark) = some op ↔ UnaryMark mark op := by
  constructor
  · intro found
    cases mark <;> cases found <;> constructor
  · intro stands
    cases stands <;> rfl

theorem wordLiteral?_eq_some_iff {name : String} {value : Value} :
    wordLiteral? name = some value ↔ WordLiteral name value := by
  constructor
  · intro found
    unfold wordLiteral? at found
    split at found <;> cases found <;> constructor
  · intro stands
    cases stands <;> rfl

theorem entryKey?_eq_some_iff {kind : TokenKind} {key : String} :
    entryKey? kind = some key ↔ EntryKey kind key := by
  constructor
  · intro found
    cases kind <;> cases found <;> constructor
  · intro stands
    cases stands <;> rfl

end Semblance.Expr
