import Semblance.CharSet
import Semblance.Regex.Tree

/-!
# Forms

A form is a regular expression with its flags worked into its sets and conditions, and reduced:
sequences and choices are flat, literals are joined, and a choice between characters is a set. Two
sources with the same form match alike and are compiled alike.
-/

namespace Semblance.Regex

/-- A condition on a position, with the flags that decide its meaning. -/
inductive Assertion where
  | textStart
  | textEnd
  | lineStart (paired : Bool)
  | lineEnd (paired : Bool)
  | word (edge : WordEdge) (unicode : Bool)
  deriving DecidableEq, Repr

inductive Form where
  | empty
  | literal (text : List Char)
  | chars (set : CharSet)
  | look (condition : Assertion)
  | repetition (sub : Form) (min : Nat) (max : Option Nat) (isLazy : Bool)
  | capture (sub : Form)
  | concat (parts : List Form)
  | alternation (branches : List Form)

namespace Form

mutual

/-- Only the empty text can match. -/
def isZeroWidth : Form → Bool
  | empty => true
  | literal _ => false
  | chars _ => false
  | look _ => true
  | repetition sub _ _ _ => sub.isZeroWidth
  | capture sub => sub.isZeroWidth
  | concat parts => allZeroWidth parts
  | alternation branches => allZeroWidth branches

def allZeroWidth : List Form → Bool
  | [] => true
  | part :: rest => part.isZeroWidth && allZeroWidth rest

end

mutual

/-- The least number of characters that a match takes. It is unknown for what cannot match, and for
all that has a part which cannot match. -/
def minLength? : Form → Option Nat
  | empty => some 0
  | literal text => some text.length
  | chars set => if set.isEmpty then none else some 1
  | look _ => some 0
  | repetition sub min _ _ => sub.minLength?.map (min * ·)
  | capture sub => sub.minLength?
  | concat parts => totalMinLength? parts
  | alternation branches => leastMinLength? branches

def totalMinLength? : List Form → Option Nat
  | [] => some 0
  | part :: rest => do return (← part.minLength?) + (← totalMinLength? rest)

def leastMinLength? : List Form → Option Nat
  | [] => none
  | [branch] => branch.minLength?
  | branch :: rest => do return min (← branch.minLength?) (← leastMinLength? rest)

end

/-- Every match takes a character. -/
def isConsuming (f : Form) : Bool :=
  match f.minLength? with
  | some n => 0 < n
  | none => false

mutual

/-- Every match has to start where the text starts. -/
def startsAtTextStart : Form → Bool
  | look condition => condition = .textStart
  | repetition sub min _ _ => 0 < min && sub.startsAtTextStart
  | capture sub => sub.startsAtTextStart
  | concat parts => anyStartsAtTextStart parts
  | alternation branches => allStartAtTextStart branches
  | _ => false

/-- Some part starts there before any part takes a character. -/
def anyStartsAtTextStart : List Form → Bool
  | [] => false
  | part :: rest => part.startsAtTextStart || (part.isZeroWidth && anyStartsAtTextStart rest)

def allStartAtTextStart : List Form → Bool
  | [] => true
  | branch :: rest => branch.startsAtTextStart && allStartAtTextStart rest

end

mutual

/-- Every match has to end where the text ends. -/
def endsAtTextEnd : Form → Bool
  | look condition => condition = .textEnd
  | repetition sub min _ _ => 0 < min && sub.endsAtTextEnd
  | capture sub => sub.endsAtTextEnd
  | concat parts => anyEndsAtTextEnd parts
  | alternation branches => allEndAtTextEnd branches
  | _ => false

/-- Some part ends there and no part after it takes a character. -/
def anyEndsAtTextEnd : List Form → Bool
  | [] => false
  | part :: rest => anyEndsAtTextEnd rest || (part.endsAtTextEnd && allZeroWidth rest)

def allEndAtTextEnd : List Form → Bool
  | [] => true
  | branch :: rest => branch.endsAtTextEnd && allEndAtTextEnd rest

end

mutual

/-- Equality of forms. A group that captures is equal to no other group. -/
def same : Form → Form → Bool
  | empty, empty => true
  | literal s, literal t => s == t
  | chars s, chars t => s = t
  | look a, look b => a = b
  | repetition sub min max isLazy, repetition sub' min' max' isLazy' =>
      sub.same sub' && min == min' && max == max' && isLazy == isLazy'
  | concat parts, concat parts' => allSame parts parts'
  | alternation branches, alternation branches' => allSame branches branches'
  | _, _ => false

def allSame : List Form → List Form → Bool
  | [], [] => true
  | part :: rest, part' :: rest' => part.same part' && allSame rest rest'
  | _, _ => false

end

mutual

/-- The number of forms inside a form, itself included. -/
def size : Form → Nat
  | repetition sub _ _ _ => sub.size + 1
  | capture sub => sub.size + 1
  | concat parts => sizeAll parts + 1
  | alternation branches => sizeAll branches + 1
  | _ => 1

def sizeAll : List Form → Nat
  | [] => 0
  | part :: rest => part.size + sizeAll rest

end

/-! ## Reduced forms -/

/-- What no text matches. -/
def fail : Form := chars .empty

/-- A set; a set of one character is a literal. Surrogates are no characters. -/
def ofChars (set : CharSet) : Form :=
  let set := set.diff (.range 0xD800 0xDFFF)
  match set.ranges with
  | [r] => if r.first = r.last then literal [Char.ofNat r.first] else chars set
  | _ => chars set

/-- Join neighbouring literals. -/
def joinLiterals : List Form → List Form
  | [] => []
  | part :: rest =>
      match part, joinLiterals rest with
      | literal s, literal t :: rest => literal (s ++ t) :: rest
      | part, rest => part :: rest

/-- Forms one after the other. -/
def ofParts (forms : List Form) : Form :=
  let parts (f : Form) : List Form :=
    match f with
    | empty => []
    | concat parts => parts
    | f => [f]
  match joinLiterals (forms.flatMap parts) with
  | [] => empty
  | [f] => f
  | fs => concat fs

def branches : Form → List Form
  | alternation fs => fs
  | f => [f]

/-- The set of the characters that the forms are, if each is a literal of one character. -/
def charsOfLiterals? : List Form → Option (List Char)
  | [] => some []
  | literal [c] :: rest => (charsOfLiterals? rest).map (c :: ·)
  | _ => none

def setsOf? : List Form → Option (List CharSet)
  | [] => some []
  | chars set :: rest => (setsOf? rest).map (set :: ·)
  | _ => none

def partsOf? : List Form → Option (List (List Form))
  | [] => some []
  | concat parts :: rest => (partsOf? rest).map (parts :: ·)
  | _ => none

/-- How many parts two sequences have in common at their start. -/
def commonLength : List Form → List Form → Nat
  | f :: rest, g :: rest' => if f.same g then commonLength rest rest' + 1 else 0
  | _, _ => 0

/-- How many parts all sequences start with. -/
def sharedLength : List (List Form) → Nat
  | [] => 0
  | first :: rest => rest.foldl (fun n parts => min n (commonLength first parts)) first.length

/-- A choice between forms. Parts that all branches start with stand before the choice. A branch
loses them then, so that the size of the forms bounds how often this happens. -/
def ofBranchesWithin (fuel : Nat) (forms : List Form) : Form :=
  match forms.flatMap branches with
  | [] => fail
  | [branch] => branch
  | branches =>
      match charsOfLiterals? branches, setsOf? branches with
      | some cs, _ => ofChars (.ofChars cs)
      | _, some sets => ofChars (.unions sets)
      | none, none =>
          match fuel, partsOf? branches with
          | fuel + 1, some (first :: rest) =>
              match sharedLength (first :: rest) with
              | 0 => alternation branches
              | n =>
                  let rests := (first :: rest).map fun parts => ofParts (parts.drop n)
                  ofParts (first.take n ++ [ofBranchesWithin fuel rests])
          | _, _ => alternation branches

def ofBranches (forms : List Form) : Form := ofBranchesWithin (sizeAll forms) forms

/-- Repeat a form. What only matches the empty text is not repeated more than once. -/
def times (sub : Form) (min : Nat) (max : Option Nat) (isLazy : Bool) : Form :=
  let (min, max) :=
    if sub.isZeroWidth then (Nat.min min 1, some (Nat.min (max.getD 1) 1)) else (min, max)
  if min = 0 ∧ max = some 0 then empty
  else if min = 1 ∧ max = some 1 then sub
  else repetition sub min max isLazy

end Form

end Semblance.Regex
