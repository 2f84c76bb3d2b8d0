import Semblance.Proofs.Pattern.Shapes

/-!
# One leaf in the place of another

A pattern has patterns within it: the members of a choice, the points of a fit, the values of a map
that names no schema, and the parts of `and`. A string at such a position, at any depth, can be replaced
by a test of the caller's own. This changes neither how deep the pattern is nor, around the string,
what the lists and maps that it lies in are taken for.
-/

namespace Semblance.Pattern

variable {s : String} {t : Tester} {p q : Pattern}

/-- The second pattern has a tester where, at one position, the first one has a string. -/
inductive Replaced (s : String) (t : Tester) : Pattern → Pattern → Prop where
  | here : Replaced s t (string s) (tester t)
  | member {before after : List Pattern} {p q : Pattern}
      (notFit : ∀ points, before ++ p :: after ≠ [sequence points]) (inner : Replaced s t p q) :
      Replaced s t (sequence (before ++ p :: after)) (sequence (before ++ q :: after))
  | point {before after : List Pattern} {p q : Pattern} (inner : Replaced s t p q) :
      Replaced s t (sequence [sequence (before ++ p :: after)])
        (sequence [sequence (before ++ q :: after)])
  | field {before after : List (String × Pattern)} {key : String} {p q : Pattern}
      (plain : schemaOf? (before ++ (key, p) :: after) = none) (inner : Replaced s t p q) :
      Replaced s t (map (before ++ (key, p) :: after)) (map (before ++ (key, q) :: after))
  /-- The list `forAll` is the one that is found under this key. -/
  | part {above below : List (String × Pattern)} {before after : List Pattern} {p q : Pattern}
      (schema : schemaOf? (above ++ ("forAll", sequence (before ++ p :: after)) :: below) =
        some "and")
      (found : above.lookup "forAll" = none) (inner : Replaced s t p q) :
      Replaced s t (map (above ++ ("forAll", sequence (before ++ p :: after)) :: below))
        (map (above ++ ("forAll", sequence (before ++ q :: after)) :: below))

/-! ## What lists and maps are taken for -/

/-- What has a tester in it names no schema, wherever it stands. -/
theorem Replaced.ne_string (replaced : Replaced s t p q) (name : String) : q ≠ string name := by
  cases replaced <;> nofun

theorem Replaced.exists_sequence (replaced : Replaced s t p q) {points : List Pattern}
    (list : q = sequence points) : ∃ others, p = sequence others := by
  cases replaced with
  | here => cases list
  | member _ _ => exact ⟨_, rfl⟩
  | point _ => exact ⟨_, rfl⟩
  | field _ _ => cases list
  | part _ _ _ => cases list

/-- A choice stays a choice. -/
theorem Replaced.notFit (replaced : Replaced s t p q) {before after : List Pattern}
    (choice : ∀ points, before ++ p :: after ≠ [sequence points]) :
    ∀ points, before ++ q :: after ≠ [sequence points] := by
  intro points same
  obtain ⟨rfl, rfl, rfl⟩ : before = [] ∧ q = sequence points ∧ after = [] := by
    simpa [List.append_eq_singleton_iff] using same
  obtain ⟨others, rfl⟩ := replaced.exists_sequence rfl
  exact choice others rfl

/-- Only the value under the schema's own key says which schema a map names. -/
theorem schemaOf?_eq_of_ne {key : String} (other : schemaKey ≠ key)
    (before after : List (String × Pattern)) (p q : Pattern) :
    schemaOf? (before ++ (key, p) :: after) = schemaOf? (before ++ (key, q) :: after) := by
  have skipped (value : Pattern) : ((key, value) :: after).lookup schemaKey =
      after.lookup schemaKey := by
    rw [List.lookup_cons, beq_eq_false_iff_ne.mpr other]
  rw [schemaOf?, schemaOf?, List.lookup_append, List.lookup_append, skipped, skipped]

/-- A map that names no schema still names none. -/
theorem Replaced.plain (replaced : Replaced s t p q) {before after : List (String × Pattern)}
    {key : String} (plain : schemaOf? (before ++ (key, p) :: after) = none) :
    schemaOf? (before ++ (key, q) :: after) = none := by
  -- Only at the schema's own key can what is replaced be looked at.
  by_cases own : schemaKey = key
  · subst own
    rw [schemaOf?, List.lookup_append, List.lookup_cons_self] at plain ⊢
    cases first : before.lookup schemaKey with
    | some value =>
        rw [first] at plain
        exact plain
    | none =>
        -- The tester, or what it lies in, is found where a name would have to be.
        cases q with
        | string name => exact absurd rfl (replaced.ne_string name)
        | _ => rfl
  · rw [← schemaOf?_eq_of_ne own before after p q]
    exact plain

theorem schemaOf?_forAll {above below : List (String × Pattern)} {name : String}
    (schema : schemaOf? (above ++ ("forAll", p) :: below) = some name) (q : Pattern) :
    schemaOf? (above ++ ("forAll", q) :: below) = some name := by
  have other : schemaKey ≠ "forAll" := by decide
  rw [schemaOf?_eq_of_ne other above below q p, schema]

theorem parts?_forAll {above : List (String × Pattern)} (found : above.lookup "forAll" = none)
    (parts : List Pattern) (below : List (String × Pattern)) :
    parts? (above ++ ("forAll", sequence parts) :: below) = some parts := by
  rw [parts?, List.lookup_append, found, List.lookup_cons_self, Option.none_or]

/-! ## Depth -/

theorem depth_sequence_eq (same : p.depth = q.depth) (before after : List Pattern) :
    depth (sequence (before ++ p :: after)) = depth (sequence (before ++ q :: after)) := by
  have items : depthOfItems (before ++ p :: after) = depthOfItems (before ++ q :: after) := by
    induction before with
    | nil => rw [List.nil_append, List.nil_append, depthOfItems, depthOfItems, same]
    | cons item rest ih =>
        rw [List.cons_append, List.cons_append, depthOfItems, depthOfItems, ih]
  rw [depth, depth, items]

theorem depth_map_eq (same : p.depth = q.depth) (key : String)
    (before after : List (String × Pattern)) :
    depth (map (before ++ (key, p) :: after)) = depth (map (before ++ (key, q) :: after)) := by
  have entries :
      depthOfEntries (before ++ (key, p) :: after) =
        depthOfEntries (before ++ (key, q) :: after) := by
    induction before with
    | nil => rw [List.nil_append, List.nil_append, depthOfEntries, depthOfEntries, same]
    | cons entry rest ih =>
        rw [List.cons_append, List.cons_append, depthOfEntries, depthOfEntries, ih]
  rw [depth, depth, entries]

theorem Replaced.depth_eq (replaced : Replaced s t p q) : p.depth = q.depth := by
  induction replaced with
  | here => rfl
  | member _ _ ih => exact depth_sequence_eq ih ..
  | point _ ih => exact depth_sequence_eq (depth_sequence_eq ih ..) [] []
  | field _ _ ih => exact depth_map_eq ih ..
  | part _ _ _ ih => exact depth_map_eq (depth_sequence_eq ih ..) ..

end Semblance.Pattern
