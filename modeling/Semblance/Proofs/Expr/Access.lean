import Semblance.Proofs.Entries
import Semblance.Proofs.Expr.Steps
import Semblance.Proofs.Value.Positions

/-!
# Access by position and by key

The keys of a list or a map, taken in order, lead to all its values in order; the positions of a
text lead to its characters, and those behind its end to nothing. Lengths count what can be reached.
Positions from `2 ^ 53` on are not told apart, so nothing is found there, however long a list is.
-/

namespace Semblance

/-! ## Members -/

namespace Value

variable {items : List Value} {s : String} {k v : Value} {i : ℕ}

theorem member_array_inside (position : IsPosition k i) (exact : i < 2 ^ 53)
    (there : items[i]? = some v) : (array items).member k = .ok v := by
  simp only [member, isLengthName_of_isPosition position, toIndex?_bind position, if_pos exact,
    there]
  rfl

theorem member_array_outside (position : IsPosition k i)
    (outside : items.length ≤ i ∨ 2 ^ 53 ≤ i) : (array items).member k = .ok null := by
  have nothing : (if i < 2 ^ 53 then items[i]? else none) = none := by
    split
    · exact List.getElem?_eq_none (by omega)
    · rfl
  simp only [member, isLengthName_of_isPosition position, toIndex?_bind position, nothing]
  rfl

theorem member_string_inside {c : Char} (position : IsPosition k i) (exact : i < 2 ^ 53)
    (there : s.toList[i]? = some c) : (string s).member k = .ok (string c.toString) := by
  simp only [member, isLengthName_of_isPosition position, toIndex?_bind position, if_pos exact,
    there]
  rfl

theorem member_string_outside (position : IsPosition k i)
    (outside : s.length ≤ i ∨ 2 ^ 53 ≤ i) : (string s).member k = .ok null := by
  have nothing : (if i < 2 ^ 53 then s.toList[i]? else none) = none := by
    split
    · exact List.getElem?_eq_none (by rw [String.length_toList]; omega)
    · rfl
  simp only [member, isLengthName_of_isPosition position, toIndex?_bind position, nothing]
  rfl

end Value

namespace Expr

open Value (IsPosition)

variable {scope : Scope} {x : Expr} {items : List Value} {entries : List (String × Value)}
  {s : String} {k v : Value}

/-! ## Reading under a key -/

/-- Whatever expression gives the key, the member of `x` under it is the value. -/
def LeadsTo (scope : Scope) (x : Expr) (key value : Value) : Prop :=
  ∀ p : Expr, p.eval scope = .ok key → (Expr.member x p).eval scope = .ok value

theorem leadsTo_of_member (value : x.eval scope = .ok v) {found : Value}
    (member : v.member k = .ok found) : LeadsTo scope x k found := by
  intro p property
  rw [eval, value, ok_bind, property, ok_bind, member]

/-- The namespace has no functions of its own in place of the built-in ones. -/
structure CallsBuiltins (scope : Scope) : Prop where
  len : scope.ns.function? "len" = none
  keys : scope.ns.function? "keys" = none

theorem eval_call_builtin {function : String} {native : NativeFunction}
    (builtin : Builtin.find? function = some native) (kept : scope.ns.function? function = none)
    (value : x.eval scope = .ok v) : (call function [x]).eval scope = native [v] := by
  have args : evalItems scope [x] = .ok [v] := by
    simp only [evalItems, value, ok_bind]
    rfl
  rw [eval, args, ok_bind, Scope.call, kept, builtin]
  rfl

/-! ## Lists, maps and texts -/

/-- Each key of a list leads to the item at its place. -/
structure ListAccess (scope : Scope) (x : Expr) (items : List Value) : Prop where
  len : (call "len" [x]).eval scope = .ok (.ofNat items.length)
  length : (Expr.member x (.literal (.string "length"))).eval scope = .ok (.ofNat items.length)
  keys : ∃ ks, (call "keys" [x]).eval scope = .ok (.array ks) ∧ ks.length = items.length ∧
    (∀ i k, ks[i]? = some k → IsPosition k i) ∧
    (items.length ≤ 2 ^ 53 → List.Forall₂ (LeadsTo scope x) ks items)
  inside : ∀ i k v, IsPosition k i → i < 2 ^ 53 → items[i]? = some v → LeadsTo scope x k v
  outside : ∀ i k, IsPosition k i → items.length ≤ i ∨ 2 ^ 53 ≤ i → LeadsTo scope x k .null

/-- Each key of a map leads to the value under it, also if it looks like a position or a length. -/
structure MapAccess (scope : Scope) (x : Expr) (entries : List (String × Value)) : Prop where
  len : (call "len" [x]).eval scope = .ok (.ofNat entries.length)
  length : entries.lookup "length" = none →
    (Expr.member x (.literal (.string "length"))).eval scope = .ok (.ofNat entries.length)
  keys : (call "keys" [x]).eval scope = .ok (.array (entries.map fun e => .string e.1))
  values : List.Forall₂ (LeadsTo scope x) (entries.map fun e => .string e.1) (entries.map Prod.snd)
  missing : ∀ key, entries.lookup key = none → key ≠ "length" →
    LeadsTo scope x (.string key) .null

/-- Each position of a text leads to its character, and none behind the end to anything. -/
structure TextAccess (scope : Scope) (x : Expr) (s : String) : Prop where
  len : (call "len" [x]).eval scope = .ok (.ofNat s.length)
  length : (Expr.member x (.literal (.string "length"))).eval scope = .ok (.ofNat s.length)
  characters : s.length ≤ 2 ^ 53 → List.Forall₂ (LeadsTo scope x)
    ((List.range s.length).map Value.ofNat) (s.toList.map fun c => .string c.toString)
  inside : ∀ i k c, IsPosition k i → i < 2 ^ 53 → s.toList[i]? = some c →
    LeadsTo scope x k (.string c.toString)
  outside : ∀ i k, IsPosition k i → s.length ≤ i ∨ 2 ^ 53 ≤ i → LeadsTo scope x k .null

/-- What holds at each position holds along all of them. -/
theorem forall₂_range {α β : Type} {R : α → β → Prop} {f : ℕ → α} {vs : List β}
    (each : ∀ i v, vs[i]? = some v → R (f i) v) :
    List.Forall₂ R ((List.range vs.length).map f) vs := by
  refine List.forall₂_iff_get.mpr ⟨by simp, fun i inRange inside => ?_⟩
  rw [List.get_eq_getElem, List.get_eq_getElem, List.getElem_map, List.getElem_range]
  exact each i _ (List.getElem?_eq_getElem inside)

theorem listAccess_of_eval (builtins : CallsBuiltins scope)
    (value : x.eval scope = .ok (.array items)) : ListAccess scope x items where
  len := eval_call_builtin rfl builtins.len value
  length := leadsTo_of_member value rfl _ (by rw [eval])
  keys := by
    refine ⟨_, eval_call_builtin rfl builtins.keys value, by simp, ?_, ?_⟩
    · intro i k key
      obtain ⟨j, inRange, rfl⟩ := List.getElem?_eq_some_iff.mp key
      rw [List.getElem_map, List.getElem_range]
      exact .text i
    · intro short
      refine forall₂_range fun i v there => leadsTo_of_member value ?_
      have below := (List.getElem?_eq_some_iff.mp there).1
      exact Value.member_array_inside (.text i) (by omega) there
  inside _ _ _ position exact there :=
    leadsTo_of_member value (Value.member_array_inside position exact there)
  outside _ _ position outside :=
    leadsTo_of_member value (Value.member_array_outside position outside)

theorem mapAccess_of_eval (builtins : CallsBuiltins scope) (sorted : Entries.Sorted entries)
    (value : x.eval scope = .ok (.object entries)) : MapAccess scope x entries where
  len := eval_call_builtin rfl builtins.len value
  length missing := by
    refine leadsTo_of_member value ?_ _ (by rw [eval])
    rw [Value.member, Value.toText, missing]
    rfl
  keys := eval_call_builtin rfl builtins.keys value
  values := by
    rw [List.forall₂_map_left_iff, List.forall₂_map_right_iff, List.forall₂_same]
    intro e mem
    refine leadsTo_of_member value ?_
    rw [Value.member, Value.toText, Entries.lookup_of_mem sorted mem]
  missing key missing other := by
    refine leadsTo_of_member value ?_
    rw [Value.member, Value.toText, missing]
    simp [Value.isLengthName, other]

theorem textAccess_of_eval (builtins : CallsBuiltins scope)
    (value : x.eval scope = .ok (.string s)) : TextAccess scope x s where
  len := eval_call_builtin rfl builtins.len value
  length := leadsTo_of_member value rfl _ (by rw [eval])
  characters short := by
    have count : s.length = (s.toList.map fun c => Value.string c.toString).length := by
      rw [List.length_map, String.length_toList]
    rw [count]
    refine forall₂_range fun i v there => leadsTo_of_member value ?_
    rw [List.getElem?_map, Option.map_eq_some_iff] at there
    obtain ⟨c, there, rfl⟩ := there
    have below := (List.getElem?_eq_some_iff.mp there).1
    rw [String.length_toList] at below
    exact Value.member_string_inside (Value.isPosition_ofNat (by omega)) (by omega) there
  inside _ _ _ position exact there :=
    leadsTo_of_member value (Value.member_string_inside position exact there)
  outside _ _ position outside :=
    leadsTo_of_member value (Value.member_string_outside position outside)

/-- Where the built-in functions are in place, lengths, keys and members of any value agree. A list
or a text that has no more than `2 ^ 53` places is read in full along its keys or positions, a map
along its keys however many there are. -/
theorem access_isCoherent (builtins : CallsBuiltins scope) (x : Expr) :
    (∀ items, x.eval scope = .ok (.array items) → ListAccess scope x items) ∧
      (∀ entries, Entries.Sorted entries → x.eval scope = .ok (.object entries) →
        MapAccess scope x entries) ∧
      ∀ s, x.eval scope = .ok (.string s) → TextAccess scope x s :=
  ⟨fun _ value => listAccess_of_eval builtins value,
    fun _ sorted value => mapAccess_of_eval builtins sorted value,
    fun _ value => textAccess_of_eval builtins value⟩

/-- A list with a null item, a map with keys that look like a position and a length, and a text of
characters that take several bytes. -/
theorem access_isCoherent_arguments :
    let items : List Value := [.bool true, .null]
    let entries : List (String × Value) := [("1", .bool false), ("length", .null)]
    let scope : Scope :=
      { params := ["xs", "m", "s"], args := [.array items, .object entries, .string "é𝄞"] }
    CallsBuiltins scope ∧ Entries.Sorted entries ∧ ListAccess scope (.identifier "xs") items ∧
      MapAccess scope (.identifier "m") entries ∧ TextAccess scope (.identifier "s") "é𝄞" ∧
      (Expr.member (.identifier "s") (.literal (.string "1"))).eval scope = .ok (.string "𝄞") := by
  intro items entries scope
  have builtins : CallsBuiltins scope := ⟨rfl, rfl⟩
  have sorted : Entries.Sorted entries := List.pairwise_pair.mpr (show "1" < "length" by decide)
  have bound (name : String) {v : Value} (found : scope.resolve? name = some v) :
      (identifier name).eval scope = .ok v := by rw [eval, found]
  have coherent (x : Expr) := access_isCoherent builtins x
  have text := (coherent _).2.2 "é𝄞" (bound "s" rfl)
  refine ⟨builtins, sorted, (coherent _).1 _ (bound "xs" rfl),
    (coherent _).2.1 _ sorted (bound "m" rfl), text,
    text.inside 1 _ '𝄞' (.text 1) (by decide) (by decide) _ ?_⟩
  rw [eval]
  rfl

end Expr

end Semblance
