import Semblance.Text.Classes
import Semblance.Unicode.Casing

/-!
# Lower and upper case of a text

Both use the full mappings, under which a character may become several. In lower case a capital
sigma at the end of a word becomes a final sigma.
-/

namespace Semblance.Text

/-- The first character that casing rules do not skip is a cased one. -/
def reachesCased (cs : List Char) : Bool :=
  match cs.dropWhile caseIgnorable.contains with
  | [] => false
  | c :: _ => cased.contains c

/-- Lower case of `rest` after the characters `before`, the nearest first. -/
def lowerAfter (before : List Char) : List Char → List Char
  | [] => []
  | c :: rest =>
      let image :=
        if c = 'Σ' then
          if reachesCased before && !reachesCased rest then ['ς'] else ['σ']
        else if c.toNat < 128 then [c.toLower]
        else Unicode.CaseRun.apply Unicode.lowerRuns c
      image ++ lowerAfter (c :: before) rest

def toLower (s : String) : String := String.ofList (lowerAfter [] s.toList)

def upperChar (c : Char) : List Char :=
  if c.toNat < 128 then [c.toUpper] else Unicode.CaseRun.apply Unicode.upperRuns c

def toUpper (s : String) : String := String.ofList (s.toList.flatMap upperChar)

end Semblance.Text
