import Semblance.Regex.Footprint
import Semblance.Regex.Meaning
import Semblance.Regex.Reader
import Semblance.Regex.Search

/-!
# Regular expressions

A source is compiled once and then tested on any number of texts. Only whether there is a match
can be asked, anywhere in a text or at its start.
-/

namespace Semblance

namespace Regex

/-- Switches that hold for a whole source unless it says otherwise. -/
structure Options where
  ignoreCase : Bool := false
  multiLine : Bool := false
  dotAll : Bool := false
  extended : Bool := false
  deriving DecidableEq, Repr

def Options.flags (o : Options) : Flags :=
  { ignoreCase := o.ignoreCase, multiLine := o.multiLine, dotAll := o.dotAll }

end Regex

/-- A compiled regular expression. -/
structure Regex where
  source : String
  form : Regex.Form

namespace Regex

/-- Compile a source, unless it is malformed or too large. -/
def compile? (options : Options) (source : String) : Option Regex := do
  let tree ← Tree.parse? options.extended source.toList
  let (form, _) ← tree.form? options.flags
  if form.isCompilable then return ⟨source, form⟩ else none

/-- Some part of the text matches. -/
def isMatch (r : Regex) (text : String) : Bool :=
  let cs := text.toList
  r.form.ends cs (Positions.below (cs.length + 1)) != 0

/-- A part of the text that starts where the text starts matches. -/
def isMatchAtStart (r : Regex) (text : String) : Bool :=
  r.form.ends text.toList 1 != 0

end Regex

end Semblance
