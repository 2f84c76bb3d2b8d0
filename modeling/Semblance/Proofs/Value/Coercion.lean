import Semblance.Expr.Eval
import Semblance.Matcher
import Semblance.Proofs.Value.Equality

/-!
# What equal values convert to

Equal values are of one kind, hold alike as conditions and read as equal numbers. Their texts can
differ in one way only: a zero is written with its sign, and equality does not see that sign. Where
the zeros have the same signs, nothing that reads texts can tell equal values apart.
-/

namespace Semblance.Value

open Binary64 Float.Model.UnpackedFloat

/-! ## Signs of zeros -/

mutual

/-- The signs of the zeros that are written in the text of a value, in their order: true for one
without a minus. -/
def zeroSigns : Value → List Bool
  | number n => if n.toFloat == 0.0 then [isSignPositive n.toFloat] else []
  | array items => itemZeroSigns items
  | _ => []

def itemZeroSigns : List Value → List Bool
  | [] => []
  | item :: rest => zeroSigns item ++ itemZeroSigns rest

end

/-- Neither list goes on as the other one does, whatever is put behind them. -/
def Diverge {α : Type} (xs ys : List α) : Prop := ∀ s t, xs ++ s ≠ ys ++ t

namespace Diverge

variable {α : Type} {xs ys : List α}

theorem ne (apart : Diverge xs ys) : xs ≠ ys := by
  rintro rfl
  exact apart [] [] rfl

theorem append (apart : Diverge xs ys) (zs ws : List α) : Diverge (xs ++ zs) (ys ++ ws) := by
  intro s t
  simpa using apart (zs ++ s) (ws ++ t)

theorem prepend (apart : Diverge xs ys) (front : List α) :
    Diverge (front ++ xs) (front ++ ys) := by
  intro s t
  simpa using apart s t

theorem cons {x y : α} (other : x ≠ y) : Diverge (x :: xs) (y :: ys) := by
  intro s t same
  exact other (List.cons.inj same).1

end Diverge

/-- Two texts and the signs in them: both the same, or both set apart by a first sign that
differs. -/
inductive SetApartBySigns (text text' : List Char) (signs signs' : List Bool) : Prop where
  | same (texts : text = text') (equal : signs = signs')
  | apart (texts : Diverge text text') (differ : Diverge signs signs')

namespace SetApartBySigns

variable {text text' more more' : List Char} {signs signs' later later' : List Bool}

theorem refl (text : List Char) (signs : List Bool) : SetApartBySigns text text signs signs :=
  .same rfl rfl

theorem append (first : SetApartBySigns text text' signs signs')
    (second : SetApartBySigns more more' later later') :
    SetApartBySigns (text ++ more) (text' ++ more') (signs ++ later) (signs' ++ later') := by
  cases first with
  | apart texts differ => exact .apart (texts.append more more') (differ.append later later')
  | same texts equal =>
      subst texts equal
      cases second with
      | same texts equal => exact .same (by rw [texts]) (by rw [equal])
      | apart texts differ => exact .apart (texts.prepend text) (differ.prepend signs)

theorem eq_iff (apart : SetApartBySigns text text' signs signs') :
    text = text' ↔ signs = signs' := by
  cases apart with
  | same texts equal => exact iff_of_true texts equal
  | apart texts differ => exact iff_of_false texts.ne differ.ne

end SetApartBySigns

/-! ## Texts -/

/-- Zero with either sign. -/
theorem eq_zero_or_of_isZero {x : Float} (zero : IsZero x) : x = 0.0 ∨ x = -0.0 := by
  obtain ⟨s, shape⟩ := zero
  cases s with
  | positive => exact .inl (parts_injective shape)
  | negative => exact .inr (parts_injective shape)

theorem setApartBySigns_zero {x y : Float} (left : IsZero x) (right : IsZero y) :
    SetApartBySigns (numberText x).toList (numberText y).toList [isSignPositive x]
      [isSignPositive y] := by
  have plain : (numberText 0.0).toList = ['0'] := by decide +kernel
  have minus : (numberText (-0.0)).toList = ['-', '0'] := by decide +kernel
  have positive : isSignPositive 0.0 = true := by decide +kernel
  have negative : isSignPositive (-0.0) = false := by decide +kernel
  rcases eq_zero_or_of_isZero left with rfl | rfl <;>
    rcases eq_zero_or_of_isZero right with rfl | rfl
  · exact .refl _ _
  · rw [plain, minus, positive, negative]
    exact .apart (.cons (by decide)) (.cons (by decide))
  · rw [plain, minus, positive, negative]
    exact .apart (.cons (by decide)) (.cons (by decide))
  · exact .refl _ _

theorem setApartBySigns_number {n m : Number} (equal : n.toFloat == m.toFloat) :
    SetApartBySigns (toText (number n)).toList (toText (number m)).toList
      (number n).zeroSigns (number m).zeroSigns := by
  simp only [toText, zeroSigns]
  rcases (beq_iff _ _).mp equal with ⟨-, same⟩ | ⟨left, right⟩
  · rw [same]
    exact .refl _ _
  · rw [if_pos ((isZero_iff _).mp left), if_pos ((isZero_iff _).mp right)]
    exact setApartBySigns_zero left right

/-- The text of a value as an item of a list. -/
def itemText (item : Value) : String := if item.isNull then "" else item.toText

theorem setApartBySigns_items {items others : List Value}
    (same : List.Forall₂ SameItem items others)
    (each : ∀ v ∈ items, ∀ w, v.strictEq w = true →
      SetApartBySigns v.toText.toList w.toText.toList v.zeroSigns w.zeroSigns) :
    SetApartBySigns (String.intercalate "," (itemTexts items)).toList
      (String.intercalate "," (itemTexts others)).toList (itemZeroSigns items)
      (itemZeroSigns others) := by
  induction same with
  | nil => exact .refl _ _
  | @cons v w items others first later ih =>
      obtain ⟨head, rest⟩ := List.forall_mem_cons.mp each
      have item : SetApartBySigns (itemText v).toList (itemText w).toList v.zeroSigns
          w.zeroSigns := by
        -- Null is written as nothing among items, and only null is equal to it.
        cases strictEq_iff.mp first with
        | null => exact .refl _ _
        | _ => exact head _ first
      cases later with
      | nil => simpa [itemTexts, itemZeroSigns, itemText] using item
      | cons second later =>
          have comma := (SetApartBySigns.refl [','] []).append (ih rest)
          simpa [itemTexts, itemZeroSigns, itemText] using item.append comma

/-- Texts of equal values can be told apart by their zeros only. -/
theorem setApartBySigns_of_strictEq {a b : Value} (equal : a.strictEq b = true) :
    SetApartBySigns a.toText.toList b.toText.toList a.zeroSigns b.zeroSigns := by
  induction a generalizing b with
  | array items ih =>
      cases strictEq_iff.mp equal with
      | array same =>
          simp only [toText, zeroSigns]
          exact setApartBySigns_items same fun v mem w equal => ih v mem equal
  | number n =>
      cases strictEq_iff.mp equal with
      | number same => exact setApartBySigns_number same
  | _ =>
      cases strictEq_iff.mp equal
      exact .refl _ _

theorem toText_eq_iff {a b : Value} (equal : a.strictEq b = true) :
    a.toText = b.toText ↔ a.zeroSigns = b.zeroSigns := by
  rw [← String.toList_inj]
  exact (setApartBySigns_of_strictEq equal).eq_iff

/-! ## Kinds, conditions and numbers -/

theorem kindName_eq_of_strictEq {a b : Value} (equal : a.strictEq b = true) :
    a.kindName = b.kindName := by
  cases strictEq_iff.mp equal <;> rfl

theorem truthy_eq_of_strictEq {a b : Value} (equal : a.strictEq b = true) :
    a.truthy = b.truthy := by
  cases strictEq_iff.mp equal with
  | @number n m same =>
      have zero : (n.toFloat == 0.0) = (m.toFloat == 0.0) := by
        rw [Bool.eq_iff_iff, ← isZero_iff, ← isZero_iff]
        exact isZero_iff_of_beq same
      simp only [truthy, bne, zero]
  | _ => rfl

/-- Equal numbers, or no number twice. -/
def SameReading (x y : Float) : Prop := x == y ∨ x.isNaN ∧ y.isNaN

theorem sameReading_refl (x : Float) : SameReading x x := by
  cases number : x.isNaN with
  | true => exact .inr ⟨number, number⟩
  | false => exact .inl ((beq_iff x x).mpr (.inl ⟨number, rfl⟩))

/-- A list of one item reads as that item, so numbers may be found at any depth. -/
theorem sameReading_of_strictEq {a b : Value} (equal : a.strictEq b = true) :
    SameReading a.toNumber b.toNumber := by
  induction a generalizing b with
  | array items ih =>
      cases strictEq_iff.mp equal with
      | array same =>
          cases same with
          | nil => exact sameReading_refl _
          | @cons v w _ _ first later =>
              cases later with
              | nil =>
                  simp only [toNumber]
                  exact ih v List.mem_cons_self first
              | cons second later =>
                  -- Two items or more have no reading, whatever they are.
                  exact sameReading_refl _
  | number n =>
      cases strictEq_iff.mp equal with
      | number same => exact .inl same
  | _ =>
      cases strictEq_iff.mp equal
      exact sameReading_refl _

/-! ## What reads texts -/

/-- Nothing that reads the text of a value tells the two values apart. -/
structure ReadAlike (a b : Value) : Prop where
  regex (test : RegexTest) : (Matcher.regexp test).test a = (Matcher.regexp test).test b
  leftSum (c : Value) (joins : a.concatenates = true ∨ c.concatenates = true) :
    BinaryOp.add.apply a c = BinaryOp.add.apply b c
  rightSum (c : Value) (joins : a.concatenates = true ∨ c.concatenates = true) :
    BinaryOp.add.apply c a = BinaryOp.add.apply c b
  key (subject : Value) : subject.member a = subject.member b

theorem concatenates_eq_of_strictEq {a b : Value} (equal : a.strictEq b = true) :
    a.concatenates = b.concatenates := by
  cases strictEq_iff.mp equal <;> rfl

theorem isLengthName_eq_of_strictEq {a b : Value} (equal : a.strictEq b = true) :
    a.isLengthName = b.isLengthName := by
  cases strictEq_iff.mp equal <;> rfl

/-- Both zeros stand for the first position. -/
theorem toIndex?_of_isZero {n : Number} (zero : IsZero n.toFloat) :
    (number n).toIndex? = some 0 := by
  rw [toIndex?, toNumber]
  rcases eq_zero_or_of_isZero zero with same | same
  · rw [same]
    decide +kernel
  · rw [same]
    decide +kernel

theorem toIndex?_eq_of_strictEq {a b : Value} (equal : a.strictEq b = true) :
    a.toIndex? = b.toIndex? := by
  cases strictEq_iff.mp equal with
  | number same =>
      rcases (beq_iff _ _).mp same with ⟨-, same⟩ | ⟨left, right⟩
      · rw [toIndex?, toIndex?, toNumber, toNumber, same]
      · rw [toIndex?_of_isZero left, toIndex?_of_isZero right]
  | _ => rfl

theorem readAlike_of_strictEq {a b : Value} (equal : a.strictEq b = true)
    (texts : a.toText = b.toText) : ReadAlike a b where
  regex test := by simp only [Matcher.test, RegexTest.accepts, texts]
  leftSum c joins := by
    have joined := joins
    rw [concatenates_eq_of_strictEq equal] at joined
    simp only [BinaryOp.apply, Bool.or_eq_true, joins, joined, if_true, texts]
  rightSum c joins := by
    have joined := joins
    rw [concatenates_eq_of_strictEq equal] at joined
    simp only [BinaryOp.apply, Bool.or_eq_true, joins.symm, joined.symm, if_true, texts]
  key subject := by
    have length := isLengthName_eq_of_strictEq equal
    have index := toIndex?_eq_of_strictEq equal
    cases subject <;> simp only [member, texts, length, index]

/-- Equal values are of one kind, hold alike as conditions and read as equal numbers. Their texts
are the same exactly if the zeros in them have the same signs, and then no regular expression, no
text that they are joined to and no map that they are a key for tells them apart. -/
theorem coercions_of_strictEq {a b : Value} (equal : a.strictEq b = true) :
    a.truthy = b.truthy ∧ a.kindName = b.kindName ∧ SameReading a.toNumber b.toNumber ∧
      (a.toText = b.toText ↔ a.zeroSigns = b.zeroSigns) ∧
      (a.zeroSigns = b.zeroSigns → ReadAlike a b) := by
  refine ⟨truthy_eq_of_strictEq equal, kindName_eq_of_strictEq equal,
    sameReading_of_strictEq equal, toText_eq_iff equal, ?_⟩
  intro signs
  exact readAlike_of_strictEq equal ((toText_eq_iff equal).mpr signs)

/-- Integers beyond the exact ones are written as the number they are rounded to, and a zero that is
negative in both values does not tell them apart. -/
theorem coercions_of_strictEq_nested :
    let high : Value := ofNat 9007199254740993
    let low : Value := float 9007199254740992.0
    let minus : Value := float (-0.0)
    let a : Value := .array [high, .array [.null, minus], .object [("k", zero)]]
    let b : Value := .array [low, .array [.null, minus], .object [("k", minus)]]
    a.strictEq b = true ∧ a.zeroSigns = [false] ∧ a.toText = b.toText ∧
      (object [(b.toText, ofNat 1)]).member a = (object [(b.toText, ofNat 1)]).member b ∧
      BinaryOp.add.apply a (string "px") = BinaryOp.add.apply b (string "px") := by
  intro high low minus a b
  have equal : a.strictEq b = true := by decide +kernel
  have signs : a.zeroSigns = [false] := by decide +kernel
  have signsToo : b.zeroSigns = [false] := by decide +kernel
  obtain ⟨-, -, -, texts, alike⟩ := coercions_of_strictEq equal
  have same : a.zeroSigns = b.zeroSigns := signs.trans signsToo.symm
  exact ⟨equal, signs, texts.mpr same, (alike same).key _, (alike same).leftSum _ (.inl rfl)⟩

/-- Equal values need not have the same text, nor be the same key. -/
theorem exists_strictEq_toText_ne :
    ∃ a b : Value, a.strictEq b = true ∧ a.toText ≠ b.toText ∧
      (object [("0", .bool true)]).member a = .ok (.bool true) ∧
        (object [("0", .bool true)]).member b = .ok null := by
  let minus : Value := float (-0.0)
  have plain : zero.toText = "0" := by decide +kernel
  have signed : minus.toText = "-0" := by decide +kernel
  refine ⟨zero, minus, by decide +kernel, ?_, ?_, ?_⟩
  · rw [plain, signed]
    decide
  · rw [member, plain]
    rfl
  · rw [member, signed]
    rfl

end Semblance.Value
