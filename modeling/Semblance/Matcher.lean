import Semblance.Matcher.LiteralSet
import Semblance.Pattern
import Semblance.Regex.Delimited
import Semblance.Value.Equality

/-!
# Matchers

A matcher is a compiled pattern: a predicate on values.
-/

namespace Semblance

inductive Matcher where
  | null
  | equal (value : Value)
  | regexp (test : RegexTest)
  | oneOf (literals : Option LiteralSet) (others : List Matcher)
  | set (literals : LiteralSet)
  | arrayFit (points : List Matcher)
  | arrayAnd (parts : List Matcher)
  | allOf (fields : List (String × Matcher))
  | objectHas (names : List String)
  | objectHasNot (names : List String)
  | stringLength (min max : Option Nat)
  | never
  | custom (tester : Tester)

namespace Matcher

instance : Inhabited Matcher := ⟨never⟩

/-- The short name of a matcher's kind, for messages. -/
def kindName : Matcher → String
  | null => "null"
  | equal _ => "equal"
  | regexp _ => "regexp"
  | oneOf _ _ => "one_of"
  | set _ => "set"
  | arrayFit _ => "array_fit"
  | arrayAnd _ => "array_and"
  | allOf _ => "all_of"
  | objectHas _ => "object_has"
  | objectHasNot _ => "object_has_not"
  | stringLength _ _ => "string_length"
  | never => "never"
  | custom _ => "custom"

/-- A length lies within bounds, either of which may be missing. -/
def lengthWithin (min max : Option Nat) (length : Nat) : Bool :=
  min.all (· ≤ length) && max.all (length ≤ ·)

mutual

def test : Matcher → Value → Bool
  | null, v => v.isNull
  | equal expected, v => expected.strictEq v
  | regexp test, v => test.accepts v
  | oneOf literals others, v => literals.any (·.contains v) || testAny others v
  | set literals, v => literals.contains v
  | arrayFit points, .array items => testFit points items
  | arrayFit _, _ => false
  | arrayAnd parts, v => testAll parts v
  | allOf fields, .object entries => testFields fields entries
  | allOf _, _ => false
  | objectHas names, .object entries => names.all fun name => (entries.lookup name).isSome
  | objectHas _, _ => false
  | objectHasNot names, .object entries => names.all fun name => (entries.lookup name).isNone
  | objectHasNot _, _ => true
  | stringLength min max, .string s => lengthWithin min max s.length
  | stringLength _ _, _ => false
  | never, _ => false
  | custom tester, v => tester.accepts v

def testAny : List Matcher → Value → Bool
  | [], _ => false
  | m :: rest, v => test m v || testAny rest v

def testAll : List Matcher → Value → Bool
  | [], _ => true
  | m :: rest, v => test m v && testAll rest v

/-- Each point takes the first item left that it matches; the next point goes on after it. -/
def testFit : List Matcher → List Value → Bool
  | [], _ => true
  | point :: rest, items =>
      match items.dropWhile fun item => !test point item with
      | [] => false
      | _ :: items => testFit rest items

def testFields : List (String × Matcher) → List (String × Value) → Bool
  | [], _ => true
  | (key, m) :: rest, entries =>
      match entries.lookup key with
      | none => false
      | some v => test m v && testFields rest entries

end

theorem testAny_eq_any (ms : List Matcher) (v : Value) : testAny ms v = ms.any (·.test v) := by
  induction ms with
  | nil => simp [testAny]
  | cons m rest ih => simp [testAny, ih]

theorem testAll_eq_all (ms : List Matcher) (v : Value) : testAll ms v = ms.all (·.test v) := by
  induction ms with
  | nil => simp [testAll]
  | cons m rest ih => simp [testAll, ih]

theorem testFields_eq_all (fields : List (String × Matcher)) (entries : List (String × Value)) :
    testFields fields entries =
      fields.all fun f => (entries.lookup f.1).any f.2.test := by
  induction fields with
  | nil => simp [testFields]
  | cons field rest ih =>
      obtain ⟨key, m⟩ := field
      rw [testFields, List.all_cons, ← ih]
      cases entries.lookup key with
      | none => rfl
      | some v => rfl

/-- The literal that a matcher stands for, if a set can hold it. -/
def literal? : Matcher → Option Value
  | null => some .null
  | equal value => if LiteralSet.canHold value then some value else none
  | _ => none

/-- A choice of matchers. Literals are collected in one set, which is asked first. -/
def ofAlternatives (members : List Matcher) : Matcher :=
  let literals := LiteralSet.ofList (members.filterMap literal?)
  match members.filter (·.literal?.isNone) with
  | [] => if literals.isEmpty then never else set literals
  | others => oneOf (if literals.isEmpty then none else some literals) others

end Matcher

end Semblance
