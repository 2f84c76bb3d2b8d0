import Semblance.Decimal.Notation
import Semblance.Proofs.Decimal.Shortest
import Semblance.Proofs.Text.Spans

/-!
# Numbers written in positions are read back

Where a notation writes all numbers in positions, the text of a finite number is a sign, digits and
perhaps a point with digits behind it. Reading that text gives the very number, signed zeros
included.
-/

namespace Semblance.Decimal

open Binary64 Float.Model.UnpackedFloat Text

/-! ## Digits with a point -/

/-- ASCII digits, at least one. -/
def IsNumeral (cs : List Char) : Prop := cs ≠ [] ∧ ∀ c ∈ cs, isAsciiDigit c = true

/-- Digits with perhaps a point among them: the number that all of them make, and how many stand
after the point. -/
inductive InPositions : List Char → ℕ → ℕ → Prop where
  | whole {digits : List Char} (numeral : IsNumeral digits) :
      InPositions digits (digitsValue digits) 0
  | fraction {front back : List Char} (whole : IsNumeral front) (part : IsNumeral back) :
      InPositions (front ++ '.' :: back) (digitsValue (front ++ back)) back.length

variable {cs : List Char} {n k : ℕ}

theorem spanDigits_eq {front rest : List Char} (numeral : IsNumeral front)
    (stops : Stops isAsciiDigit rest) : spanDigits (front ++ rest) = (front, rest) :=
  Prod.ext_iff.mpr (span_eq_iff.mpr ⟨rfl, numeral.2, stops⟩)

theorem InPositions.readUnsigned_eq (written : InPositions cs n k) :
    readUnsigned cs = some (nearestFloat n (-k)) := by
  cases written with
  | whole numeral =>
      have digits := spanDigits_eq numeral stops_nil
      rw [List.append_nil] at digits
      simp [readUnsigned, digits, numeral.1, readExponent]
  | fraction whole part =>
      rename_i front back
      have first := spanDigits_eq whole (stops_cons (c := '.') (by decide) back)
      have second := spanDigits_eq part stops_nil
      rw [List.append_nil] at second
      simp [readUnsigned, first, second, whole.1, readExponent]

theorem InPositions.exists_cons (written : InPositions cs n k) :
    ∃ c rest, cs = c :: rest ∧ isAsciiDigit c = true := by
  have first {digits : List Char} (numeral : IsNumeral digits) (more : List Char) :
      ∃ c rest, digits ++ more = c :: rest ∧ isAsciiDigit c = true := by
    obtain ⟨c, rest, rfl⟩ := List.exists_cons_of_ne_nil numeral.1
    exact ⟨c, rest ++ more, rfl, numeral.2 c List.mem_cons_self⟩
  cases written with
  | whole numeral => simpa using first numeral []
  | fraction whole part => exact first whole _

/-- A digit is no sign. -/
theorem readSign_digit {c : Char} (digit : isAsciiDigit c = true) (rest : List Char) :
    readSign (c :: rest) = (false, c :: rest) := by
  unfold readSign
  split
  · rename_i same
    cases same
    exact absurd digit (by decide)
  · rename_i same
    cases same
    exact absurd digit (by decide)
  · rfl

theorem InPositions.readSign_eq (written : InPositions cs n k) : readSign cs = (false, cs) := by
  obtain ⟨c, rest, rfl, digit⟩ := written.exists_cons
  exact readSign_digit digit rest

/-! ## Writing digits -/

theorem isNumeral_digits (d : Decimal) : IsNumeral d.digits := by
  refine ⟨Nat.toDigits_ne_nil, fun c mem => ?_⟩
  have digit := Nat.isDigit_of_mem_toDigits (by decide) (by decide) mem
  simpa [isAsciiDigit, Char.isDigit, Char.le_def] using digit

theorem digitsValue_digits (d : Decimal) : digitsValue d.digits = d.coefficient :=
  Nat.ofDigitChars_toDigits (by decide) (by decide)

theorem digitsValue_append (xs ys : List Char) :
    digitsValue (xs ++ ys) = Nat.ofDigitChars 10 ys (digitsValue xs) :=
  Nat.ofDigitChars_append 0

theorem IsNumeral.append {xs ys : List Char} (left : IsNumeral xs)
    (right : ∀ c ∈ ys, isAsciiDigit c = true) : IsNumeral (xs ++ ys) :=
  ⟨List.append_ne_nil_of_left_ne_nil left.1 ys,
    List.forall_mem_append.mpr ⟨left.2, right⟩⟩

theorem isNumeral_zero : IsNumeral ['0'] :=
  ⟨List.cons_ne_nil _ _, List.forall_mem_singleton.mpr (by decide)⟩

theorem isAsciiDigit_of_mem_replicate (k : ℕ) :
    ∀ c ∈ List.replicate k '0', isAsciiDigit c = true := by
  intro c mem
  rw [List.eq_of_mem_replicate mem]
  decide

theorem digitsValue_replicate_append (k : ℕ) (ys : List Char) :
    digitsValue (List.replicate k '0' ++ ys) = digitsValue ys := by
  have zeros : digitsValue (List.replicate k '0') = 0 := Nat.ofDigitChars_replicate_zero
  rw [digitsValue_append, zeros]
  rfl

/-- Digits that are a decimal once the point stands before as many of them as its exponent says. -/
theorem exists_inPositions_fraction {d : Decimal} {front back : List Char}
    (whole : IsNumeral front) (part : IsNumeral back)
    (digits : digitsValue (front ++ back) = d.coefficient)
    (places : d.exponent = -(back.length : ℤ)) :
    ∃ n k, InPositions (front ++ '.' :: back) n k ∧ (n / 10 ^ k : ℚ) = d.value := by
  refine ⟨_, _, .fraction whole part, ?_⟩
  rw [value, places, digits, zpow_neg, zpow_natCast, div_eq_mul_inv]

/-- The text of a decimal in positions. -/
theorem exists_inPositions (d : Decimal) :
    ∃ n k, InPositions (Notation.inPositions false d.digits d.exponent) n k ∧
      (n / 10 ^ k : ℚ) = d.value := by
  have numeral := isNumeral_digits d
  have coefficient := digitsValue_digits d
  unfold Notation.inPositions
  dsimp only
  split
  · -- Zeros take the place of the exponent.
    rename_i whole
    obtain ⟨k, exponent⟩ : ∃ k : ℕ, d.exponent = k := ⟨d.exponent.toNat, by omega⟩
    rw [if_neg Bool.false_ne_true, List.append_nil]
    refine ⟨_, 0, .whole (numeral.append (isAsciiDigit_of_mem_replicate _)), ?_⟩
    rw [digitsValue_append, coefficient, Nat.ofDigitChars_replicate_zero, value, exponent,
      Int.toNat_natCast, zpow_natCast]
    push_cast
    ring
  · obtain ⟨places, exponent⟩ : ∃ k : ℕ, d.exponent = -k := ⟨(-d.exponent).toNat, by omega⟩
    have count : (-d.exponent).toNat = places := by omega
    rw [count]
    split
    · -- The point stands among the digits.
      rename_i nonzero short
      apply exists_inPositions_fraction
      · refine ⟨List.ne_nil_of_length_pos ?_, fun c mem => numeral.2 c (List.mem_of_mem_take mem)⟩
        rw [List.length_take]
        omega
      · refine ⟨List.ne_nil_of_length_pos ?_, fun c mem => numeral.2 c (List.mem_of_mem_drop mem)⟩
        rw [List.length_drop]
        omega
      · rw [List.take_append_drop, coefficient]
      · rw [List.length_drop]
        omega
    · -- The point stands before all digits.
      rename_i nonzero long
      have part : IsNumeral (List.replicate (places - d.digits.length) '0' ++ d.digits) :=
        ⟨List.append_ne_nil_of_right_ne_nil _ numeral.1,
          List.forall_mem_append.mpr ⟨isAsciiDigit_of_mem_replicate _, numeral.2⟩⟩
      have value :
          digitsValue (['0'] ++ (List.replicate (places - d.digits.length) '0' ++ d.digits)) =
            d.coefficient := by
        rw [← List.append_assoc, List.singleton_append, ← List.replicate_succ,
          digitsValue_replicate_append, coefficient]
      apply exists_inPositions_fraction isNumeral_zero part value
      rw [List.length_append, List.length_replicate]
      omega

/-! ## Numbers -/

variable {N : Notation} {x : Float}

/-- A notation that writes all numbers in positions, whole ones without a point. -/
structure IsPositional (N : Notation) : Prop where
  always : N.positional = none
  bare : N.pointZero = false

/-- The number with the sign. -/
def withSign : Sign → Float → Float
  | .negative, x => -x
  | .positive, x => x

theorem withSign_eq_of_parts {s : Sign} {m : ℕ} {e : ℤ} {pos : 0 < m} {y : Float}
    (shape : parts x = .finite s m e pos)
    (holds : Holds (parts y) ((m * 2 ^ e : ℚ) : WithTop ℚ)) : x = withSign s y := by
  have positive : (0 : ℚ) < m * 2 ^ e := by positivity
  have value := HasValue.finite m e pos
  cases s with
  | positive =>
      rw [← shape] at value
      exact (eq_of_holds value positive holds).symm
  | negative =>
      have opposite : parts (-x) = .finite .positive m e pos := by
        rw [parts_neg, shape]
        rfl
      rw [← opposite] at value
      rw [withSign, eq_of_holds value positive holds, neg_neg]

/-- A finite number is written as a sign and the digits of a decimal that is read as its absolute
value. -/
theorem exists_write_eq (positional : IsPositional N) (finite : x.isFinite = true) :
    ∃ s cs n k, N.write x = Notation.signed s cs ∧ InPositions cs n k ∧
      x = withSign s (nearestFloat n (-k)) := by
  have rounded := isRounded_parts x
  rw [isFinite_eq] at finite
  unfold parts at rounded finite
  unfold Notation.write
  cases shape : x.toModel.unpack with
  | notANumber =>
      rw [shape] at finite
      cases finite
  | infinity s =>
      rw [shape] at finite
      cases finite
  | zero s =>
      refine ⟨s, ['0'], _, _, ?_, .whole isNumeral_zero, ?_⟩
      · simp [positional.bare]
      · cases s with
        | positive => exact parts_injective shape
        | negative => exact parts_injective shape
  | finite s m e pos =>
      rw [shape] at rounded
      obtain ⟨n, k, written, value⟩ := exists_inPositions (shortest N.tie m e)
      have holds := holds_nearestFloat n k
      rw [value] at holds
      refine ⟨s, _, n, k, ?_, written, ?_⟩
      · simp [Notation.writeDecimal, positional.always, positional.bare]
      · exact withSign_eq_of_parts shape (holds_of_holds_shortest N.tie rounded holds)

/-- Every finite number is read back from its text. -/
theorem readFloat_write (positional : IsPositional N) (finite : x.isFinite = true) :
    readFloat (N.write x).toList = some x := by
  obtain ⟨s, cs, n, k, text, written, same⟩ := exists_write_eq positional finite
  have number := written.readUnsigned_eq
  rw [text]
  cases s with
  | positive => simp [Notation.signed, readFloat, written.readSign_eq, number, same, withSign]
  | negative => simp [Notation.signed, readFloat, readSign, number, same, withSign]

end Semblance.Decimal
