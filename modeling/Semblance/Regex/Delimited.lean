import Semblance.Regex
import Semblance.Value.Coercion

/-!
# Delimited regular expressions

A body such as `/source/flags` holds a source and its flags. The first character is the delimiter,
and its last occurrence ends the source. The flag `y` asks for a match at the start of the text,
`g` and `u` change nothing, and `i`, `m`, `s` and `x` are switches of the source.
-/

namespace Semblance

/-- Why a body holds no regular expression. -/
inductive RegexFault where
  | emptyBody
  | unclosed (delimiter : Char)
  | repeatedFlag (flag : Char)
  | unknownFlag (flag : Char)
  | rejectedSource
  deriving DecidableEq, Repr

namespace RegexFault

def reason : RegexFault → String
  | emptyBody => "empty body"
  | unclosed delimiter => s!"missing closing delimiter '{delimiter}'"
  | repeatedFlag flag => s!"repeated flag '{flag}'"
  | unknownFlag flag => s!"unknown flag '{flag}'"
  | rejectedSource => "the source is not a regular expression"

end RegexFault

/-- A regular expression as a test of values. -/
structure RegexTest where
  regex : Regex
  /-- The match has to start where the text starts. -/
  sticky : Bool := false

namespace RegexTest

/-- What the flags of a body say. -/
structure Settings where
  options : Regex.Options := {}
  sticky : Bool := false
  deriving DecidableEq, Repr

def Settings.set? (s : Settings) : Char → Option Settings
  | 'i' => some { s with options := { s.options with ignoreCase := true } }
  | 'm' => some { s with options := { s.options with multiLine := true } }
  | 's' => some { s with options := { s.options with dotAll := true } }
  | 'x' => some { s with options := { s.options with extended := true } }
  | 'u' | 'g' => some s
  | 'y' => some { s with sticky := true }
  | _ => none

/-- Read flags one by one; each may occur once. -/
def readSettings (seen : List Char) (s : Settings) : List Char → Except RegexFault Settings
  | [] => .ok s
  | flag :: rest =>
      if seen.contains flag then .error (.repeatedFlag flag)
      else
        match s.set? flag with
        | none => .error (.unknownFlag flag)
        | some s => readSettings (flag :: seen) s rest

/-- Cut a text at the last occurrence of a character, which neither part keeps. -/
def cutAtLast? (sep : Char) : List Char → Option (List Char × List Char)
  | [] => none
  | c :: rest =>
      match cutAtLast? sep rest with
      | some (before, after) => some (c :: before, after)
      | none => if c = sep then some ([], rest) else none

theorem cutAtLast?_eq_none_iff (sep : Char) (cs : List Char) :
    cutAtLast? sep cs = none ↔ sep ∉ cs := by
  induction cs with
  | nil => simp [cutAtLast?]
  | cons c rest ih =>
      rw [cutAtLast?]
      split
      · rename_i before after found
        have present : sep ∈ rest := by
          by_cases h : sep ∈ rest
          · exact h
          · rw [ih.mpr h] at found
            exact absurd found (by simp)
        simp [present]
      · rename_i missing
        have absent := ih.mp missing
        by_cases h : c = sep
        · simp [h]
        · simp [h, absent, Ne.symm h]

theorem cutAtLast?_append {sep : Char} {after : List Char} (absent : sep ∉ after)
    (before : List Char) :
    cutAtLast? sep (before ++ sep :: after) = some (before, after) := by
  induction before with
  | nil =>
      rw [List.nil_append, cutAtLast?, (cutAtLast?_eq_none_iff sep after).mpr absent]
      exact if_pos rfl
  | cons c rest ih => rw [List.cons_append, cutAtLast?, ih]

theorem cutAtLast?_eq_some_iff (sep : Char) (cs before after : List Char) :
    cutAtLast? sep cs = some (before, after) ↔ cs = before ++ sep :: after ∧ sep ∉ after := by
  constructor
  · intro found
    induction cs generalizing before with
    | nil => simp [cutAtLast?] at found
    | cons c rest ih =>
        rw [cutAtLast?] at found
        split at found
        · rename_i first last inner
          cases found
          obtain ⟨parts, absent⟩ := ih first inner
          exact ⟨by rw [parts, List.cons_append], absent⟩
        · rename_i missing
          split at found
          · rename_i same
            cases found
            exact ⟨by rw [same, List.nil_append], (cutAtLast?_eq_none_iff _ _).mp missing⟩
          · cases found
  · rintro ⟨rfl, absent⟩
    exact cutAtLast?_append absent before

def parse (body : String) : Except RegexFault RegexTest :=
  match body.toList with
  | [] => .error .emptyBody
  | delimiter :: rest =>
      match cutAtLast? delimiter rest with
      | none => .error (.unclosed delimiter)
      | some (source, flags) => do
          let settings ← readSettings [] {} flags
          match Regex.compile? settings.options (String.ofList source) with
          | none => .error .rejectedSource
          | some regex => return { regex, sticky := settings.sticky }

/-- Test the text of a value. -/
def accepts (test : RegexTest) (value : Value) : Bool :=
  if test.sticky then test.regex.isMatchAtStart value.toText
  else test.regex.isMatch value.toText

end RegexTest

end Semblance
