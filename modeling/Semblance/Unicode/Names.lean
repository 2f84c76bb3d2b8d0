import Semblance.Unicode.Category
import Semblance.Unicode.Script
import Semblance.Unicode.Binary
import Semblance.Unicode.Age
import Semblance.Unicode.Segmentation

/-!
# Character properties by name

`named?` answers a name that stands alone: a binary property, a general category or a script.
`valued?` answers a property with a value, such as the script `Greek` or the age `6.0`.
-/

namespace Semblance.Unicode

/-- Characters that no general category holds. -/
def unassigned : CharSet :=
  (CharSet.unions (⟨[⟨0xD800, 0xDFFF⟩]⟩ :: categories.map Property.chars)).complement

/-- Categories that are unions of others: their names, then the short names of the members. -/
def categoryGroups : List (List String × List String) := [
  (["c", "other"], ["cc", "cf", "co"]),
  (["lc", "casedletter"], ["lu", "ll", "lt"]),
  (["l", "letter"], ["lu", "ll", "lt", "lm", "lo"]),
  (["m", "mark", "combiningmark"], ["mn", "mc", "me"]),
  (["n", "number"], ["nd", "nl", "no"]),
  (["p", "punctuation", "punct"], ["pc", "pd", "pe", "pf", "pi", "po", "ps"]),
  (["s", "symbol"], ["sc", "sk", "sm", "so"]),
  (["z", "separator"], ["zl", "zp", "zs"])]

def categoryGroup? (name : String) : Option CharSet :=
  (categoryGroups.find? (·.1.contains name)).map fun group =>
    CharSet.unions (group.2.map (Property.get categories))

/-- A general category by its loose name. -/
def category? (name : String) : Option CharSet :=
  match name with
  | "any" => some .all
  | "ascii" => some (.range 0 0x7F)
  | "assigned" => some unassigned.complement
  | "cn" | "unassigned" => some unassigned
  | "c" | "other" => (categoryGroup? name).map (·.union unassigned)
  | _ => (Property.find? categories name).orElse fun _ => categoryGroup? name

def script? (name : String) : Option CharSet := Property.find? scripts name

def scriptExtensions? (name : String) : Option CharSet :=
  (Property.find? sharedScripts name).orElse fun _ => script? name

/-- All characters assigned up to a version of the standard. -/
def age? (version : String) : Option CharSet :=
  let earlier := additions.takeWhile fun p => !p.names.contains version
  (additions.find? (·.names.contains version)).map fun p =>
    CharSet.unions ((earlier ++ [p]).map Property.chars)

/-- A name on its own. Three short names stand both for a property and for a general category,
and then the category is meant. -/
def named? (name : List Char) : Option CharSet :=
  let name := looseName name
  let binary := if name = "cf" ∨ name = "sc" ∨ name = "lc" then none
    else Property.find? binaryProperties name
  binary.orElse fun _ => (category? name).orElse fun _ => script? name

/-- A property with a value. -/
def valued? (property value : List Char) : Option CharSet :=
  let value := looseName value
  match looseName property with
  | "gc" | "generalcategory" => category? value
  | "sc" | "script" => script? value
  | "scx" | "scriptextensions" => scriptExtensions? value
  | "age" => age? value
  | "gcb" | "graphemeclusterbreak" => Property.find? graphemeBreaks value
  | "wb" | "wordbreak" => Property.find? wordBreaks value
  | "sb" | "sentencebreak" => Property.find? sentenceBreaks value
  | _ => none

end Semblance.Unicode
