import Semblance.Unicode.Category
import Semblance.Unicode.Binary
import Semblance.Unicode.Later

/-!
# Character classes

The classes that the expression language, the text built-ins and quoted text ask for, over all of
Unicode. ASCII characters are classified without a table.
-/

namespace Semblance.Text

/-- Characters with the property White_Space. -/
def blanks : CharSet :=
  ⟨[⟨0x09, 0x0D⟩, ⟨0x20, 0x20⟩, ⟨0x85, 0x85⟩, ⟨0xA0, 0xA0⟩, ⟨0x1680, 0x1680⟩, ⟨0x2000, 0x200A⟩,
    ⟨0x2028, 0x2029⟩, ⟨0x202F, 0x202F⟩, ⟨0x205F, 0x205F⟩, ⟨0x3000, 0x3000⟩]⟩

def alphabetic : CharSet :=
  (Unicode.Property.get Unicode.binaryProperties "alphabetic").union Unicode.laterAlphabetic

def numeric : CharSet :=
  CharSet.unions <| Unicode.laterNumeric ::
    ["nd", "nl", "no"].map (Unicode.Property.get Unicode.categories)

/-- The letters that casing tells apart. The pharyngeal fricative is none of them. -/
def cased : CharSet :=
  ((Unicode.Property.get Unicode.binaryProperties "cased").diff (.ofChars ['ʕ'])).union
    Unicode.laterCased

def caseIgnorable : CharSet :=
  (Unicode.Property.get Unicode.binaryProperties "caseignorable").union Unicode.laterCaseIgnorable

/-- Marks that join the character before them. The halfwidth voicing marks of Katakana are letters
with a place of their own. -/
def joiningMarks : CharSet :=
  ((Unicode.Property.get Unicode.binaryProperties "graphemeextend").union
    Unicode.laterGraphemeExtend).diff (Unicode.Property.get Unicode.categories "lm")

/-- Assigned characters that show: no controls, no formats, no private use, no fillers and of the
blanks only the space. -/
def printable : CharSet :=
  let shown := CharSet.unions <| .range 0x20 0x20 :: Unicode.laterAssigned ::
    ["lu", "ll", "lt", "lm", "lo", "mn", "mc", "me", "nd", "nl", "no", "pc", "pd", "pe", "pf",
      "pi", "po", "ps", "sc", "sk", "sm", "so"].map (Unicode.Property.get Unicode.categories)
  shown.diff (Unicode.Property.get Unicode.binaryProperties "defaultignorablecodepoint")

def isBlank (c : Char) : Bool := blanks.contains c

def isAsciiDigit (c : Char) : Bool := '0' ≤ c && c ≤ '9'

def isAsciiLetter (c : Char) : Bool := ('a' ≤ c && c ≤ 'z') || ('A' ≤ c && c ≤ 'Z')

def isAlphabetic (c : Char) : Bool :=
  if c.toNat < 128 then isAsciiLetter c else alphabetic.contains c

def isAlphanumeric (c : Char) : Bool :=
  if c.toNat < 128 then isAsciiLetter c || isAsciiDigit c
  else alphabetic.contains c || numeric.contains c

def isPrintable (c : Char) : Bool :=
  if c.toNat < 128 then ' ' ≤ c && c ≤ '~' else printable.contains c

/-- Drop the blanks at both ends. -/
def trim (cs : List Char) : List Char :=
  ((cs.dropWhile isBlank).reverse.dropWhile isBlank).reverse

end Semblance.Text
