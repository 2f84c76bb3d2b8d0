import Semblance.Text.Classes

/-!
# Digits and word characters

The classes that `\d` and `\w` stand for, over all of Unicode and over ASCII alone.
-/

namespace Semblance.Regex

def decimalDigits : CharSet := Unicode.Property.get Unicode.categories "nd"

/-- Letters, marks, decimal digits, connectors and joiners: the characters of a word. -/
def wordChars : CharSet :=
  CharSet.unions <|
    [Unicode.Property.get Unicode.binaryProperties "alphabetic",
      Unicode.Property.get Unicode.binaryProperties "joincontrol"] ++
    ["nd", "mn", "mc", "me", "pc"].map (Unicode.Property.get Unicode.categories)

def asciiDigits : CharSet := .range 0x30 0x39

def asciiBlanks : CharSet := .ofChars ['\t', '\n', '\x0b', '\x0c', '\r', ' ']

def asciiWordChars : CharSet := .ofRanges [⟨0x30, 0x39⟩, ⟨0x41, 0x5A⟩, ⟨0x5F, 0x5F⟩, ⟨0x61, 0x7A⟩]

def isDecimalDigit (c : Char) : Bool :=
  if c.toNat < 128 then Text.isAsciiDigit c else decimalDigits.contains c

def isWordChar (c : Char) : Bool :=
  if c.toNat < 128 then asciiWordChars.contains c else wordChars.contains c

end Semblance.Regex
