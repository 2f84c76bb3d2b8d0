import Mathlib.Data.List.NodupEquivFin
import Mathlib.Order.Fin.Basic
import Semblance.Proofs.Matcher.Fit

/-!
# Nothing is lost without backtracking

Points fit a list when they match items at ascending positions. A search that may give back an item
finds such positions if there are any. The matcher never gives one back, and still finds them: the
first item that a point matches leaves the most for the points after it.
-/

namespace Semblance

/-- An embedding of one list into another, said by positions. -/
theorem sublistForall₂_iff_exists_strictMono {α β : Type} {R : α → β → Prop} {as : List α}
    {bs : List β} : List.SublistForall₂ R as bs ↔
      ∃ position : Fin as.length → Fin bs.length, StrictMono position ∧
        ∀ k, R as[k] bs[position k] := by
  rw [List.sublistForall₂_iff]
  constructor
  · rintro ⟨chosen, related, sublist⟩
    obtain ⟨embedding, same⟩ := List.sublist_iff_exists_fin_orderEmbedding_get_eq.mp sublist
    obtain ⟨length, each⟩ := List.forall₂_iff_get.mp related
    refine ⟨fun k => embedding (k.cast length), ?_, ?_⟩
    · intro j k before
      exact embedding.strictMono before
    · intro k
      have met := each k k.isLt (length ▸ k.isLt)
      rwa [same] at met
  · rintro ⟨position, ascending, each⟩
    -- The items at the positions are a part of the list, and each is related to its point.
    refine ⟨List.ofFn fun k => bs[position k], List.forall₂_iff_get.mpr ⟨?_, ?_⟩, ?_⟩
    · rw [List.length_ofFn]
    · intro k inPoints inItems
      rw [List.get_ofFn]
      exact each ⟨k, inPoints⟩
    · rw [List.sublist_iff_exists_fin_orderEmbedding_get_eq]
      have length : (List.ofFn fun k => bs[position k]).length = as.length := List.length_ofFn
      refine ⟨OrderEmbedding.ofStrictMono (fun k => position (k.cast length)) ?_, ?_⟩
      · intro j k before
        exact ascending before
      · intro k
        rw [List.get_ofFn]
        rfl

namespace Matcher

/-- Look for items for the points, in order. An item that the first point matches is either taken
or passed over. -/
def searchFit : List Matcher → List Value → Bool
  | [], _ => true
  | _ :: _, [] => false
  | point :: rest, item :: items =>
      (point.test item && searchFit rest items) || searchFit (point :: rest) items

/-- The search finds items if there are any. -/
theorem searchFit_iff {points : List Matcher} {items : List Value} :
    searchFit points items = true ↔ Fits points items := by
  induction items generalizing points with
  | nil =>
      cases points with
      | nil => exact iff_of_true (by rw [searchFit]) .nil
      | cons point rest => exact iff_of_false (by rw [searchFit]; exact Bool.false_ne_true) nofun
  | cons item items ih =>
      cases points with
      | nil => exact iff_of_true (by rw [searchFit]) .nil
      | cons point rest =>
          rw [searchFit, Bool.or_eq_true, Bool.and_eq_true, ih, ih]
          constructor
          · rintro (⟨matched, others⟩ | later)
            · exact .cons matched others
            · exact .cons_right later
          · intro fits
            cases fits with
            | cons matched others => exact .inl ⟨matched, others⟩
            | cons_right later => exact .inr later

/-- A fit accepts the lists in which its points match items at ascending positions, and nothing
else. So on each list it says what a search with backtracking says. -/
theorem test_arrayFit_iff (points : List Matcher) :
    (∀ v, (arrayFit points).test v = true ↔ ∃ items, v = .array items ∧
      ∃ position : Fin points.length → Fin items.length, StrictMono position ∧
        ∀ k : Fin points.length, points[k].test items[position k] = true) ∧
    (∀ items, (arrayFit points).test (.array items) = searchFit points items) := by
  constructor
  · intro v
    cases v with
    | array items =>
        rw [test, testFit_iff, Fits, sublistForall₂_iff_exists_strictMono]
        constructor
        · intro fits
          exact ⟨items, rfl, fits⟩
        · rintro ⟨_, same, fits⟩
          cases same
          exact fits
    | _ => simp [test]
  · intro items
    rw [test, Bool.eq_iff_iff, testFit_iff, searchFit_iff]

end Matcher

end Semblance
