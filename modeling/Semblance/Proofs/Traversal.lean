import Mathlib.Data.List.Forall2

/-!
# Lists of computations that may fail

Computations run one after the other up to the first that fails: all succeed, or the first error
is the error of the whole. Two such lists are compared step by step.
-/

namespace Semblance.Traversal

variable {ε α β : Type}

theorem map_eq_ok_iff {x : Except ε α} {g : α → β} {y : β} :
    x.map g = .ok y ↔ ∃ a, x = .ok a ∧ g a = y := by
  cases x <;> simp [Except.map]

theorem mapM_cons_ok {f : α → Except ε β} {x : α} {y : β} (first : f x = .ok y) (xs : List α) :
    (x :: xs).mapM f = (xs.mapM f).map (y :: ·) := by
  rw [List.mapM_cons, first]
  cases xs.mapM f <;> rfl

theorem mapM_cons_error {f : α → Except ε β} {x : α} {e : ε} (first : f x = .error e)
    (xs : List α) : (x :: xs).mapM f = .error e := by
  rw [List.mapM_cons, first]
  rfl

/-- Only what is computed for the elements of the list matters. -/
theorem mapM_congr {f g : α → Except ε β} {xs : List α} (same : ∀ x ∈ xs, f x = g x) :
    xs.mapM f = xs.mapM g := by
  induction xs with
  | nil => rfl
  | cons x xs ih =>
      obtain ⟨first, rest⟩ := List.forall_mem_cons.mp same
      rw [List.mapM_cons, List.mapM_cons, first, ih rest]

/-- The results, each beside what it is the result of. -/
theorem mapM_eq_ok_iff {f : α → Except ε β} {xs : List α} {ys : List β} :
    xs.mapM f = .ok ys ↔ xs.map f = ys.map .ok := by
  induction xs generalizing ys with
  | nil =>
      cases ys with
      | nil => exact ⟨fun _ => rfl, fun _ => rfl⟩
      | cons y rest => exact ⟨nofun, nofun⟩
  | cons x xs ih =>
      cases first : f x with
      | error e =>
          rw [mapM_cons_error first]
          cases ys <;> simp [first]
      | ok y =>
          rw [mapM_cons_ok first]
          cases ys with
          | nil => cases xs.mapM f <;> simp [Except.map]
          | cons z rest =>
              rw [List.map_cons, List.map_cons, List.cons_eq_cons, ← ih, first]
              cases xs.mapM f <;> simp [Except.map]

/-- Each result is the result of an element, and the other way round. -/
theorem mem_iff_of_mapM_eq_ok {f : α → Except ε β} {xs : List α} {ys : List β}
    (results : xs.mapM f = .ok ys) {y : β} : y ∈ ys ↔ ∃ x ∈ xs, f x = .ok y := by
  rw [← List.mem_map, mapM_eq_ok_iff.mp results]
  simp

/-- All succeed exactly when each does. -/
theorem exists_mapM_eq_ok_iff {f : α → Except ε β} {xs : List α} :
    (∃ ys, xs.mapM f = .ok ys) ↔ ∀ x ∈ xs, ∃ y, f x = .ok y := by
  induction xs with
  | nil => exact ⟨fun _ => nofun, fun _ => ⟨[], rfl⟩⟩
  | cons x xs ih =>
      rw [List.forall_mem_cons, ← ih]
      cases first : f x with
      | error e =>
          rw [mapM_cons_error first]
          simp
      | ok y =>
          rw [mapM_cons_ok first]
          cases xs.mapM f <;> simp [Except.map]

/-- The error is the one of the first that fails. -/
theorem mapM_eq_error_iff {f : α → Except ε β} {xs : List α} {e : ε} :
    xs.mapM f = .error e ↔
      ∃ before x after, xs = before ++ x :: after ∧ (∀ a ∈ before, ∃ y, f a = .ok y) ∧
        f x = .error e := by
  induction xs with
  | nil =>
      constructor
      · nofun
      · rintro ⟨before, x, after, parts, -, -⟩
        simp at parts
  | cons x xs ih =>
      cases first : f x with
      | error d =>
          rw [mapM_cons_error first]
          -- What fails is the first element, before which nothing has succeeded.
          constructor
          · intro same
            cases same
            exact ⟨[], x, xs, rfl, nofun, first⟩
          · rintro ⟨before, z, after, parts, succeed, fails⟩
            rcases List.cons_eq_append_iff.mp parts with ⟨rfl, same⟩ | ⟨rest, rfl, -⟩
            · cases same
              rw [first] at fails
              cases fails
              rfl
            · obtain ⟨y, ok⟩ := succeed x (List.mem_cons_self ..)
              rw [first] at ok
              cases ok
      | ok y =>
          have rest : (x :: xs).mapM f = .error e ↔ xs.mapM f = .error e := by
            rw [mapM_cons_ok first]
            cases xs.mapM f <;> simp [Except.map]
          rw [rest, ih]
          constructor
          · rintro ⟨before, z, after, rfl, succeed, fails⟩
            exact ⟨x :: before, z, after, rfl, List.forall_mem_cons.mpr ⟨⟨y, first⟩, succeed⟩,
              fails⟩
          · rintro ⟨before, z, after, parts, succeed, fails⟩
            rcases List.cons_eq_append_iff.mp parts with ⟨rfl, same⟩ | ⟨others, rfl, rest⟩
            · cases same
              rw [first] at fails
              cases fails
            · exact ⟨others, z, after, rest, (List.forall_mem_cons.mp succeed).2, fails⟩

/-! ## Errors of one kind -/

/-- A computation that has no other errors than those of a kind. -/
def FailsOnly (P : ε → Prop) (x : Except ε α) : Prop := ∀ e, x = .error e → P e

variable {P : ε → Prop}

theorem FailsOnly.ok (a : α) : FailsOnly P (.ok a) := nofun

theorem FailsOnly.error {e : ε} (kind : P e) : FailsOnly P (.error e : Except ε α) := by
  intro d same
  cases same
  exact kind

theorem FailsOnly.bind {x : Except ε α} {f : α → Except ε β} (first : FailsOnly P x)
    (next : ∀ a, FailsOnly P (f a)) : FailsOnly P (x >>= f) := by
  cases x with
  | error d =>
      intro e same
      cases same
      exact first d rfl
  | ok a => exact next a

theorem FailsOnly.map {x : Except ε α} (first : FailsOnly P x) (g : α → β) :
    FailsOnly P (x.map g) := by
  cases x with
  | error d =>
      intro e same
      cases same
      exact first d rfl
  | ok a => exact .ok (g a)

theorem FailsOnly.mapM {f : α → Except ε β} {xs : List α} (each : ∀ x ∈ xs, FailsOnly P (f x)) :
    FailsOnly P (xs.mapM f) := by
  intro e fails
  obtain ⟨before, x, after, rfl, -, failed⟩ := mapM_eq_error_iff.mp fails
  exact each x (by simp) e failed

/-! ## Two computations -/

/-- Both fail with one and the same error, or both succeed and their results are related. -/
inductive Related (R : α → β → Prop) : Except ε α → Except ε β → Prop where
  | ok {a : α} {b : β} (results : R a b) : Related R (.ok a) (.ok b)
  | error (e : ε) : Related R (.error e) (.error e)

variable {γ δ : Type} {R : α → β → Prop}

theorem Related.refl {R : α → α → Prop} (same : ∀ a, R a a) (x : Except ε α) : Related R x x := by
  cases x with
  | error e => exact .error e
  | ok a => exact .ok (same a)

theorem Related.map {S : γ → δ → Prop} {x : Except ε α} {y : Except ε β} {g : α → γ} {h : β → δ}
    (related : Related R x y) (step : ∀ a b, R a b → S (g a) (h b)) :
    Related S (x.map g) (y.map h) := by
  cases related with
  | error e => exact .error e
  | ok results => exact .ok (step _ _ results)

/-- The first to fail are at the same place, and have the same error. -/
theorem related_mapM {f : γ → Except ε α} {g : δ → Except ε β} {xs : List γ} {ys : List δ}
    (each : List.Forall₂ (fun x y => Related R (f x) (g y)) xs ys) :
    Related (List.Forall₂ R) (xs.mapM f) (ys.mapM g) := by
  induction each with
  | nil => exact .ok .nil
  | @cons x y xs ys first _ ih =>
      generalize fx : f x = a at first
      generalize gy : g y = b at first
      cases first with
      | error e =>
          rw [mapM_cons_error fx, mapM_cons_error gy]
          exact .error e
      | ok results =>
          rw [mapM_cons_ok fx, mapM_cons_ok gy]
          exact ih.map fun _ _ others => .cons results others

/-- Lists that differ in one place are related if what stands there is. -/
theorem forall₂_append_cons {R : α → α → Prop} (same : ∀ a, R a a) {x y : α} (here : R x y)
    (before after : List α) : List.Forall₂ R (before ++ x :: after) (before ++ y :: after) := by
  induction before with
  | nil => exact .cons here (List.forall₂_same.mpr fun a _ => same a)
  | cons a rest ih => exact .cons (same a) ih

end Semblance.Traversal
