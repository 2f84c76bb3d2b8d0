import Semblance.CharSet

/-!
# Named character properties

A property, or one value of it, is a table of code points under the names by which it is asked
for. Names are kept in loose form: lower case, without blanks, hyphens, low lines and a leading
`is`.
-/

namespace Semblance.Unicode

/-- The code points with one property value, as a table that `CharSet.ofTable` reads. -/
structure Property where
  names : List String
  table : String

namespace Property

def chars (p : Property) : CharSet := CharSet.ofTable p.table

def find? (properties : List Property) (name : String) : Option CharSet :=
  (properties.find? (·.names.contains name)).map chars

/-- The characters of a property that the list is known to hold. -/
def get (properties : List Property) (name : String) : CharSet :=
  (find? properties name).getD .empty

end Property

/-- The loose form of a name: what is compared when a property is asked for. -/
def looseName (name : List Char) : String :=
  let fold (cs : List Char) : String :=
    String.ofList <| (cs.filter fun c => c.toNat < 128 && c ≠ ' ' && c ≠ '_' && c ≠ '-').map
      Char.toLower
  match name with
  | a :: b :: rest =>
      if a.toLower = 'i' ∧ b.toLower = 's' then
        -- The name of a property of its own, not the category `c`.
        if fold rest = "c" then "isc" else fold rest
      else fold name
  | _ => fold name

end Semblance.Unicode
