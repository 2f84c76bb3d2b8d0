import Mathlib.Data.List.Forall2
import Semblance.Matcher

/-!
# Fitting points in order

Each point takes the first item that it matches and never gives it back. Nothing is lost by that: the
points fit whenever there is any choice of items, one after the other, that they match.
-/

namespace Semblance

/-- Embeddings compose: what an item of the middle list has become stands for the point that took the
item. -/
theorem sublistForall₂_comp {α β γ : Type} {R : α → β → Prop} {S : β → γ → Prop} {T : α → γ → Prop}
    {as : List α} {bs : List β} {cs : List γ} (first : List.SublistForall₂ R as bs)
    (second : List.SublistForall₂ S bs cs)
    (comp : ∀ a ∈ as, ∀ b c, R a b → S b c → T a c) : List.SublistForall₂ T as cs := by
  induction second generalizing as with
  | nil =>
      cases first
      exact .nil
  | cons related _ ih =>
      cases first with
      | nil => exact .nil
      | cons matched others =>
          obtain ⟨head, rest⟩ := List.forall_mem_cons.mp comp
          exact .cons (head _ _ matched related) (ih others rest)
      | cons_right later => exact .cons_right (ih later comp)
  | cons_right _ ih => exact .cons_right (ih first comp)

namespace Matcher

/-- There are items, in order, that the points match one by one. -/
abbrev Fits (points : List Matcher) (items : List Value) : Prop :=
  List.SublistForall₂ (fun point item => point.test item = true) points items

variable {point : Matcher} {points : List Matcher} {item : Value} {items : List Value}

/-- What is left of the points fits the items that they all fit. -/
theorem Fits.of_cons (fits : Fits (point :: points) items) : Fits points items := by
  induction items with
  | nil => cases fits
  | cons item rest ih =>
      cases fits with
      | cons _ others => exact .cons_right others
      | cons_right later => exact .cons_right (ih later)

/-- If the first item is taken, the points after the first one have to fit what follows it. Any other
fit could have taken it as well. -/
theorem fits_cons_of_test (matched : point.test item = true) :
    Fits (point :: points) (item :: items) ↔ Fits points items := by
  constructor
  · intro fits
    cases fits with
    | cons _ others => exact others
    | cons_right later => exact Fits.of_cons later
  · exact .cons matched

theorem fits_cons_of_not_test (missed : point.test item = false) :
    Fits (point :: points) (item :: items) ↔ Fits (point :: points) items := by
  constructor
  · intro fits
    cases fits with
    | cons matched _ =>
        rw [missed] at matched
        cases matched
    | cons_right later => exact later
  · exact .cons_right

theorem testFit_cons_of_test (matched : point.test item = true) :
    testFit (point :: points) (item :: items) = testFit points items := by
  rw [testFit, List.dropWhile_cons_of_neg (by simp [matched])]

theorem testFit_cons_of_not_test (missed : point.test item = false) :
    testFit (point :: points) (item :: items) = testFit (point :: points) items := by
  rw [testFit, List.dropWhile_cons_of_pos (by simp [missed]), ← testFit]

/-- Taking the first item that matches finds a fit if there is one. -/
theorem testFit_iff : testFit points items = true ↔ Fits points items := by
  induction items generalizing points with
  | nil =>
      cases points with
      | nil => exact iff_of_true (by rw [testFit]) .nil
      | cons point rest => exact iff_of_false (by simp [testFit]) nofun
  | cons item items ih =>
      cases points with
      | nil => exact iff_of_true (by rw [testFit]) .nil
      | cons point rest =>
          cases met : point.test item with
          | true => rw [testFit_cons_of_test met, fits_cons_of_test met, ih]
          | false => rw [testFit_cons_of_not_test met, fits_cons_of_not_test met, ih]

end Matcher

end Semblance
