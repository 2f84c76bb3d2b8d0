import Mathlib.Data.List.Chain
import Semblance.Proofs.Expr.Correctness

/-!
# How deep the parser is nested

The parser counts its own nesting and then the depth of the tree. Without round brackets that only
group, the nesting follows the tree: a node nests the parser no deeper than it deepens the tree,
except that arrays and objects nest it twice, once for the brackets and once for what stands in
them. So a tree with arrays or objects in each other can be refused although it is shallow.
-/

namespace Semblance.Expr

/-! ## Tokens without grouping -/

namespace Token

def isName : Token → Bool
  | ⟨.identifier _, _⟩ => true
  | _ => false

def isRoundBracket : Token → Bool
  | ⟨.punct .leftParen, _⟩ => true
  | _ => false

end Token

/-- An opening round bracket stands only right after a name, where it opens a call. -/
structure Ungrouped (tokens : List Token) : Prop where
  first : ∀ t ∈ tokens.head?, t.isRoundBracket = false
  later : tokens.IsChain fun t u => u.isRoundBracket = true → t.isName = true

namespace Ungrouped

variable {ts us : List Token} {mark : Punct} {i : Nat}

theorem left (ungrouped : Ungrouped (ts ++ us)) : Ungrouped ts where
  first := by
    cases ts with
    | nil => exact nofun
    | cons t rest => exact ungrouped.first
  later := ungrouped.later.left_of_append

/-- What follows a mark does not begin with a round bracket. -/
theorem after (ungrouped : Ungrouped (ts ++ ⟨.punct mark, i⟩ :: us)) : Ungrouped us where
  first t mem := by
    have follows := (List.isChain_cons.mp ungrouped.later.right_of_append).1 t mem
    rw [Bool.eq_false_iff]
    intro bracket
    cases follows bracket
  later := (List.isChain_cons.mp ungrouped.later.right_of_append).2

theorem after_first (ungrouped : Ungrouped (⟨.punct mark, i⟩ :: us)) : Ungrouped us :=
  @after [] us mark i ungrouped

end Ungrouped

/-! ## Nesting of a tree -/

/-- A text, which is also what a property that is named after a point becomes. -/
def isText : Expr → Bool
  | literal (.string _) => true
  | _ => false

mutual

/-- How deep a tree nests the parser. A property that is a text may have been named after a point,
which does not nest it, or have stood in brackets; `named` says which of the two is counted. -/
def nesting (named : Nat) : Expr → Nat
  | literal _ | identifier _ => 0
  | array items => 1 + nestingItems named items
  | object entries => 1 + nestingEntries named entries
  | member subject property =>
      max (subject.nesting named) (if property.isText then named else 1 + property.nesting named)
  | call _ args => nestingItems named args
  | unary _ operand => 1 + operand.nesting named
  | binary _ left right => max (left.nesting named) (right.nesting named)
  | logical _ left right => max (left.nesting named) (right.nesting named)
  | conditional test consequent alternate =>
      max (test.nesting named)
        (1 + max (consequent.nesting named) (alternate.nesting named))

def nestingItems (named : Nat) : List Expr → Nat
  | [] => 0
  | item :: rest => max (1 + item.nesting named) (nestingItems named rest)

def nestingEntries (named : Nat) : List (String × Expr) → Nat
  | [] => 0
  | (_, value) :: rest => max (1 + value.nesting named) (nestingEntries named rest)

end

mutual

/-- How many arrays and objects stand in each other. -/
def brackets : Expr → Nat
  | literal _ | identifier _ => 0
  | array items => 1 + bracketsItems items
  | object entries => 1 + bracketsEntries entries
  | member subject property => max subject.brackets property.brackets
  | call _ args => bracketsItems args
  | unary _ operand => operand.brackets
  | binary _ left right => max left.brackets right.brackets
  | logical _ left right => max left.brackets right.brackets
  | conditional test consequent alternate =>
      max test.brackets (max consequent.brackets alternate.brackets)

def bracketsItems : List Expr → Nat
  | [] => 0
  | item :: rest => max item.brackets (bracketsItems rest)

def bracketsEntries : List (String × Expr) → Nat
  | [] => 0
  | (_, value) :: rest => max value.brackets (bracketsEntries rest)

end


/-! ## Bounds by the tree -/

theorem nesting_apply (named : Nat) (op : Operator) (left right : Expr) :
    (op.apply left right).nesting named = max (left.nesting named) (right.nesting named) := by
  cases op with
  | logical op => rw [Operator.apply, nesting]
  | binary op => rw [Operator.apply, nesting]

/-- In brackets, a property is nested as any expression is. -/
theorem nesting_member (subject property : Expr) :
    (member subject property).nesting 1 = max (subject.nesting 1) (1 + property.nesting 1) := by
  rw [nesting]
  split
  · rename_i text
    unfold isText at text
    split at text
    · rfl
    · cases text
  · rfl

mutual

/-- The parser is nested once for each level of the tree, and once more for arrays and objects. -/
theorem nesting_lt (e : Expr) : e.nesting 1 < e.depth + e.brackets := by
  match e with
  | literal _ => exact Nat.zero_lt_one
  | identifier _ => exact Nat.zero_lt_one
  | array items =>
      have below := nestingItems_le items
      rw [nesting, depth, brackets]
      omega
  | object entries =>
      have below := nestingEntries_le entries
      rw [nesting, depth, brackets]
      omega
  | member subject property =>
      have first := nesting_lt subject
      have second := nesting_lt property
      rw [nesting_member, depth, brackets]
      omega
  | call _ args =>
      have below := nestingItems_le args
      rw [nesting, depth, brackets]
      omega
  | unary _ operand =>
      have below := nesting_lt operand
      rw [nesting, depth, brackets]
      omega
  | binary _ left right =>
      have first := nesting_lt left
      have second := nesting_lt right
      rw [nesting, depth, brackets]
      omega
  | logical _ left right =>
      have first := nesting_lt left
      have second := nesting_lt right
      rw [nesting, depth, brackets]
      omega
  | conditional test consequent alternate =>
      have first := nesting_lt test
      have second := nesting_lt consequent
      have third := nesting_lt alternate
      rw [nesting, depth, brackets]
      omega

theorem nestingItems_le (items : List Expr) :
    nestingItems 1 items ≤ depthItems items + bracketsItems items := by
  match items with
  | [] => exact Nat.zero_le _
  | item :: rest =>
      have first := nesting_lt item
      have later := nestingItems_le rest
      rw [nestingItems, depthItems, bracketsItems]
      omega

theorem nestingEntries_le (entries : List (String × Expr)) :
    nestingEntries 1 entries ≤ depthEntries entries + bracketsEntries entries := by
  match entries with
  | [] => exact Nat.zero_le _
  | (_, value) :: rest =>
      have first := nesting_lt value
      have later := nestingEntries_le rest
      rw [nestingEntries, depthEntries, bracketsEntries]
      omega

end

/-! ## Bounds for derivations -/

/-- How deep what stands for a phrase nests the parser of the phrase. -/
def Phrase.nesting (named : Nat) : (p : Phrase) → p.Tree → Nat
  | .expression, e => 1 + e.nesting named
  | .conditional, e | .chain _, e | .unary, e | .suffixed, e | .primary, e => e.nesting named
  | .items _, es => nestingItems named es
  | .entries, es => nestingEntries named es

/-- No derivation is nested less than its tree, with the properties that are texts left out. -/
theorem Derives.nesting_le {p : Phrase} {h : Nat} {ts : List Token} {e : p.Tree}
    (derives : Derives p h ts e) : p.nesting 0 e ≤ h := by
  induction derives with
  | expression _ ih => simp only [Phrase.nesting] at ih ⊢; omega
  | unconditional _ ih => exact ih
  | conditional _ _ _ first second third =>
      simp only [Phrase.nesting, Expr.nesting] at *
      omega
  | single _ _ ih => exact ih
  | joined _ _ _ first second =>
      simp only [Phrase.nesting, nesting_apply] at *
      omega
  | operand _ _ ih => exact ih
  | unmarked _ ih => exact ih
  | marked _ _ ih =>
      simp only [Phrase.nesting, Expr.nesting] at *
      omega
  | primary _ ih => exact ih
  | member _ ih =>
      simp only [Phrase.nesting, Expr.nesting, isText, if_true] at *
      omega
  | index _ _ first second =>
      simp only [Phrase.nesting, Expr.nesting] at *
      split <;> omega
  | call _ _ _ ih => exact ih
  | number => exact Nat.zero_le _
  | string => exact Nat.zero_le _
  | word _ => exact Nat.zero_le _
  | identifier _ => exact Nat.zero_le _
  | grouped _ ih =>
      simp only [Phrase.nesting] at *
      omega
  | array _ ih =>
      simp only [Phrase.nesting, Expr.nesting] at *
      omega
  | object _ ih =>
      simp only [Phrase.nesting, Expr.nesting] at *
      omega
  | noItem => exact Nat.zero_le _
  | lastItem _ ih =>
      simp only [Phrase.nesting, nestingItems] at *
      omega
  | item _ _ first later =>
      simp only [Phrase.nesting, nestingItems] at *
      omega
  | noEntry => exact Nat.zero_le _
  | lastEntry _ _ ih =>
      simp only [Phrase.nesting, nestingEntries] at *
      omega
  | entry _ _ _ first later =>
      simp only [Phrase.nesting, nestingEntries] at *
      omega

/-- Tokens that only open calls with round brackets can be derived with no more nesting than their
tree has, with the properties that are texts counted as if they stood in brackets. -/
theorem Derives.of_ungrouped {p : Phrase} {h k : Nat} {ts : List Token} {e : p.Tree}
    (derives : Derives p h ts e) (ungrouped : Ungrouped ts) (enough : p.nesting 1 e ≤ k) :
    Derives p k ts e := by
  induction derives generalizing k with
  | expression _ ih =>
      rw [Phrase.nesting] at enough
      obtain ⟨k, rfl⟩ : ∃ j, k = j + 1 := ⟨k - 1, by omega⟩
      exact .expression (ih ungrouped (show _ ≤ k by rw [Phrase.nesting]; omega))
  | unconditional _ ih => exact .unconditional (ih ungrouped enough)
  | conditional _ _ _ first second third =>
      simp only [Phrase.nesting, Expr.nesting] at *
      exact .conditional (first ungrouped.left.left (by omega))
        (second ungrouped.left.after (by omega)) (third ungrouped.after (by omega))
  | single inside _ ih => exact .single inside (ih ungrouped enough)
  | joined mark _ _ first second =>
      simp only [Phrase.nesting, nesting_apply] at *
      exact .joined mark (first ungrouped.left (by omega)) (second ungrouped.after (by omega))
  | operand beyond _ ih => exact .operand beyond (ih ungrouped enough)
  | unmarked _ ih => exact .unmarked (ih ungrouped enough)
  | marked mark _ ih =>
      simp only [Phrase.nesting, Expr.nesting] at *
      obtain ⟨k, rfl⟩ : ∃ j, k = j + 1 := ⟨k - 1, by omega⟩
      exact .marked mark (ih ungrouped.after_first (by omega))
  | primary _ ih => exact .primary (ih ungrouped enough)
  | member _ ih =>
      simp only [Phrase.nesting, Expr.nesting] at *
      exact .member (ih ungrouped.left (by omega))
  | index _ _ first second =>
      simp only [Phrase.nesting, nesting_member] at *
      exact .index (first ungrouped.left.left (by omega))
        (second ungrouped.left.after (by omega))
  | call _ _ first ih =>
      exact .call (first ungrouped.left (Nat.zero_le k)) (ih ungrouped.after enough)
  | number => exact .number
  | string => exact .string
  | word stands => exact .word stands
  | identifier free => exact .identifier free
  | grouped _ _ => cases ungrouped.first _ rfl
  | array _ ih =>
      simp only [Phrase.nesting, Expr.nesting] at *
      obtain ⟨k, rfl⟩ : ∃ j, k = j + 1 := ⟨k - 1, by omega⟩
      exact .array (ih ungrouped.after_first (by omega))
  | object _ ih =>
      simp only [Phrase.nesting, Expr.nesting] at *
      obtain ⟨k, rfl⟩ : ∃ j, k = j + 1 := ⟨k - 1, by omega⟩
      exact .object (ih ungrouped.after_first (by omega))
  | noItem => exact .noItem
  | lastItem _ ih =>
      simp only [Phrase.nesting, nestingItems] at *
      exact .lastItem (ih ungrouped.left (by omega))
  | item _ _ first later =>
      simp only [Phrase.nesting, nestingItems] at *
      exact .item (first ungrouped.left (by omega)) (later ungrouped.after (by omega))
  | noEntry => exact .noEntry
  | @lastEntry _ kind _ _ _ i _ _ key _ ih =>
      simp only [Phrase.nesting, nestingEntries] at *
      exact .lastEntry key (ih (@Ungrouped.after [⟨kind, i⟩] _ _ _ ungrouped.left) (by omega))
  | @entry _ kind _ _ _ _ _ i _ _ key _ _ first later =>
      simp only [Phrase.nesting, nestingEntries] at *
      exact .entry key (first (@Ungrouped.after [⟨kind, i⟩] _ _ _ ungrouped.left) (by omega))
        (later ungrouped.after (by omega))

/-! ## The limit -/

/-- What the parser makes of tokens when nothing is too deep for it. -/
def ParsesUnlimited (tokens : List Token) (e : Expr) : Prop :=
  ∃ enough, ∀ limit ≥ enough, parseWithin limit tokens = .ok e

theorem parsesUnlimited_iff {tokens : List Token} {e : Expr} :
    ParsesUnlimited tokens e ↔ ∃ h, Derives .expression h tokens e := by
  constructor
  · rintro ⟨enough, parses⟩
    exact ⟨enough, (derives_of_parseWithin (parses enough (Nat.le_refl enough))).1⟩
  · rintro ⟨h, derives⟩
    refine ⟨max h e.depth, fun limit wide => parseWithin_of_derives derives ?_ ?_⟩
    · exact (Nat.le_max_left h e.depth).trans wide
    · exact (Nat.le_max_right h e.depth).trans wide

section Limit

variable {limit : Nat} {tokens : List Token} {e : Expr} (parses : ParsesUnlimited tokens e)
include parses

theorem parseWithin_eq_ok_or_refused :
    parseWithin limit tokens = .ok e ∨
      parseWithin limit tokens = .error (.limit .expressionDepth) := by
  obtain ⟨h, derives⟩ := parsesUnlimited_iff.mp parses
  exact parseWithin_of_derives_or_refused derives

/-- Trees that are too deep, or nest the parser too deep, are refused. -/
theorem parseWithin_refused (deep : limit < e.depth ∨ limit ≤ e.nesting 0) :
    parseWithin limit tokens = .error (.limit .expressionDepth) := by
  apply (parseWithin_eq_ok_or_refused parses).resolve_left
  intro parsed
  obtain ⟨derives, shallow⟩ := derives_of_parseWithin parsed
  have nested := derives.nesting_le
  rw [Phrase.nesting] at nested
  omega

theorem parseWithin_ok (ungrouped : Ungrouped tokens) (shallow : e.depth ≤ limit)
    (nested : e.nesting 1 < limit) : parseWithin limit tokens = .ok e := by
  obtain ⟨h, derives⟩ := parsesUnlimited_iff.mp parses
  have within : Phrase.expression.nesting 1 e ≤ limit := by
    rw [Phrase.nesting]
    omega
  exact parseWithin_of_derives (derives.of_ungrouped ungrouped within) (Nat.le_refl limit) shallow

end Limit

/-- Tokens without grouping that make a tree are parsed into it or refused for their depth. Where
there are no arrays and objects, the depth of the tree alone decides; where there are, the nesting
of the parser decides too. -/
theorem parse_of_ungrouped {tokens : List Token} {e : Expr} (ungrouped : Ungrouped tokens)
    (parses : ParsesUnlimited tokens e) :
    (parse tokens = .ok e ∨ parse tokens = .error (.limit .expressionDepth)) ∧
      (e.brackets = 0 →
        (parse tokens = .error (.limit .expressionDepth) ↔ maxExpressionDepth < e.depth)) ∧
      (maxExpressionDepth < e.depth ∨ maxExpressionDepth ≤ e.nesting 0 →
        parse tokens = .error (.limit .expressionDepth)) ∧
      (e.depth ≤ maxExpressionDepth → e.nesting 1 < maxExpressionDepth →
        parse tokens = .ok e) := by
  refine ⟨parseWithin_eq_ok_or_refused parses, fun plain => ⟨fun refused => ?_, fun deep => ?_⟩,
    parseWithin_refused parses, parseWithin_ok parses ungrouped⟩
  · by_contra shallow
    have nested := nesting_lt e
    have parsed : parse tokens = .ok e :=
      parseWithin_ok parses ungrouped (by omega) (by omega)
    rw [parsed] at refused
    cases refused
  · exact parseWithin_refused parses (.inl deep)

/-! ## Arrays in arrays -/

/-- Empty arrays with so many arrays around them. -/
def tower : Nat → Expr
  | 0 => array []
  | n + 1 => array [tower n]

/-- The tokens of a tower that starts at an offset. -/
def towerTokens : Nat → Nat → List Token
  | 0, i => [⟨.punct .leftBracket, i⟩, ⟨.punct .rightBracket, i + 1⟩]
  | n + 1, i =>
      ⟨.punct .leftBracket, i⟩ :: (towerTokens n (i + 1) ++ [⟨.punct .rightBracket, i + 2 * n + 3⟩])

theorem derives_chain_of_primary {h level : Nat} {ts : List Token} {e : Expr}
    (derives : Derives .primary h ts e) : Derives (.chain level) h ts e := by
  by_cases inside : level < 7
  · exact .single inside (derives_chain_of_primary derives)
  · exact .operand (Nat.not_lt.mp inside) (.unmarked (.primary derives))
termination_by 7 - level

theorem derives_expression_of_primary {h : Nat} {ts : List Token} {e : Expr}
    (derives : Derives .primary h ts e) : Derives .expression (h + 1) ts e :=
  .expression (.unconditional (derives_chain_of_primary derives))

theorem derives_tower (n i : Nat) :
    Derives .expression (2 * n + 2) (towerTokens n i) (tower n) := by
  induction n generalizing i with
  | zero => exact derives_expression_of_primary (.array (@Derives.noItem .square 0 (i + 1)))
  | succ n ih =>
      have item := @Derives.lastItem .square _ _ _ (i + 2 * n + 3) (ih (i + 1))
      exact derives_expression_of_primary (.array item)

theorem parsesUnlimited_tower (n i : Nat) : ParsesUnlimited (towerTokens n i) (tower n) :=
  parsesUnlimited_iff.mpr ⟨_, derives_tower n i⟩

theorem depth_tower (n : Nat) : (tower n).depth = n + 1 := by
  induction n with
  | zero => rfl
  | succ n ih =>
      rw [tower, depth, depthItems, depthItems, ih]
      omega

theorem nesting_tower (named n : Nat) : (tower n).nesting named = 2 * n + 1 := by
  induction n with
  | zero => rfl
  | succ n ih =>
      rw [tower, nesting, nestingItems, nestingItems, ih]
      omega

theorem maxExpressionDepth_le_nesting_tower : maxExpressionDepth ≤ (tower 32).nesting 0 := by
  rw [nesting_tower]
  decide

/-- A text is parsed, and of towers those of up to 32 arrays are. -/
theorem parse_of_ungrouped_tower :
    parse [⟨.string "x", 0⟩] ≠ .error (.limit .expressionDepth) ∧
      Ungrouped (towerTokens 31 0) ∧ ParsesUnlimited (towerTokens 31 0) (tower 31) ∧
      parse (towerTokens 31 0) = .ok (tower 31) ∧
      Ungrouped (towerTokens 32 0) ∧ ParsesUnlimited (towerTokens 32 0) (tower 32) ∧
      parse (towerTokens 32 0) = .error (.limit .expressionDepth) := by
  have text : ParsesUnlimited [⟨.string "x", 0⟩] (.literal (.string "x")) :=
    parsesUnlimited_iff.mpr ⟨1, derives_expression_of_primary .string⟩
  obtain ⟨-, plain, -, -⟩ := parse_of_ungrouped ⟨by decide, by decide⟩ text
  have small : Ungrouped (towerTokens 31 0) := ⟨by decide, by decide +kernel⟩
  have large : Ungrouped (towerTokens 32 0) := ⟨by decide, by decide +kernel⟩
  obtain ⟨-, -, -, fits⟩ := parse_of_ungrouped small (parsesUnlimited_tower 31 0)
  obtain ⟨-, -, refused, -⟩ := parse_of_ungrouped large (parsesUnlimited_tower 32 0)
  have depth : (tower 31).depth ≤ maxExpressionDepth := by
    rw [depth_tower]
    decide
  have nested : (tower 31).nesting 1 < maxExpressionDepth := by
    rw [nesting_tower]
    decide
  exact ⟨fun refused => absurd ((plain rfl).mp refused) (by decide), small,
    parsesUnlimited_tower 31 0, fits depth nested, large, parsesUnlimited_tower 32 0,
    refused (.inr maxExpressionDepth_le_nesting_tower)⟩

/-- A source of 33 arrays in each other is refused, though its tree is only 33 levels deep. -/
theorem exists_shallow_refused :
    ∃ tokens e, tokenize (String.ofList (List.replicate 33 '[' ++ List.replicate 33 ']')) =
        .ok tokens ∧ Ungrouped tokens ∧ ParsesUnlimited tokens e ∧
      e.depth ≤ maxExpressionDepth ∧ parse tokens = .error (.limit .expressionDepth) := by
  have parses := parsesUnlimited_tower 32 0
  have shallow : (tower 32).depth ≤ maxExpressionDepth := by
    rw [depth_tower]
    decide
  exact ⟨towerTokens 32 0, tower 32, by decide +kernel, ⟨by decide, by decide +kernel⟩, parses,
    shallow, parseWithin_refused parses (.inr maxExpressionDepth_le_nesting_tower)⟩

end Semblance.Expr
