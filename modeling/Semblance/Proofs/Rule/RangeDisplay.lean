import Semblance.Proofs.Decimal.RoundTrip
import Semblance.Proofs.Rule.RangeText

/-!
# Texts that range specs are shown as

A range spec is shown as its kind and its three numbers, in the form that range specs are read in.
Reading that text gives the spec again as long as its numbers are finite. A decimal may be too large
for that; then it is shown as a word, and no word is read.
-/

namespace Semblance.RangeSpec

open Regex Text

open Decimal (IsNumeral InPositions)

variable {cs : List Char} {s : RangeSpec} {x : Float}

/-! ## Numbers -/

theorem isDigits_of_isNumeral (numeral : IsNumeral cs) : IsDigits cs := by
  refine ⟨numeral.1, fun c mem => ?_⟩
  have digit := numeral.2 c mem
  have ascii : c.toNat < 128 := by
    simp only [isAsciiDigit, Bool.and_eq_true, decide_eq_true_eq, Char.le_def] at digit
    exact Nat.lt_of_le_of_lt (UInt32.le_iff_toNat_le.mp digit.2) (by decide)
  rwa [isDecimalDigit, if_pos ascii]

theorem isDigits_of_all {digits : List Char}
    (check : digits ≠ [] ∧ digits.all isAsciiDigit = true) : IsDigits digits :=
  isDigits_of_isNumeral ⟨check.1, List.all_eq_true.mp check.2⟩

theorem isDecimal_of_inPositions {n k : ℕ} (written : InPositions cs n k) :
    IsDecimal cs ∧ IsDecimal ('-' :: cs) := by
  cases written with
  | whole numeral =>
      have digits := isDigits_of_isNumeral numeral
      exact ⟨.whole (.plain digits), .whole (.negative digits)⟩
  | fraction whole part =>
      have digits := isDigits_of_isNumeral whole
      have rest := isDigits_of_isNumeral part
      exact ⟨.fraction (.plain digits) rest, .fraction (.negative digits) rest⟩

theorem isPositional_plain : Decimal.IsPositional .plain := ⟨rfl, rfl⟩

theorem isDecimal_write (finite : x.isFinite = true) :
    IsDecimal (Notation.plain.write x).toList := by
  obtain ⟨s, cs, n, k, text, written, -⟩ := Decimal.exists_write_eq isPositional_plain finite
  obtain ⟨bare, minus⟩ := isDecimal_of_inPositions written
  rw [text]
  cases s with
  | positive => simpa [Notation.signed] using bare
  | negative => simpa [Notation.signed] using minus

/-- What is not finite is written as a word. -/
theorem write_of_not_isFinite (infinite : ¬ x.isFinite = true) :
    Notation.plain.write x = "NaN" ∨ Notation.plain.write x = "inf" ∨
      Notation.plain.write x = "-inf" := by
  rw [Binary64.isFinite_eq, Binary64.parts] at infinite
  rw [Notation.write]
  split
  · exact .inl rfl
  · rename_i sign _
    cases sign with
    | positive => exact .inr (.inl rfl)
    | negative => exact .inr (.inr rfl)
  · rename_i shape
    rw [shape] at infinite
    exact absurd rfl infinite
  · rename_i shape
    rw [shape] at infinite
    exact absurd rfl infinite

theorem not_isDecimal_write (infinite : ¬ x.isFinite = true) :
    ¬ IsDecimal (Notation.plain.write x).toList := by
  have letter : ∃ c ∈ (Notation.plain.write x).toList, isDecimalChar c = false := by
    rcases write_of_not_isFinite infinite with word | word | word <;> rw [word]
    · exact ⟨'N', by decide⟩
    · exact ⟨'f', by decide⟩
    · exact ⟨'f', by decide⟩
  obtain ⟨c, mem, other⟩ := letter
  intro decimal
  rw [decimal.isDecimalChar_of_mem mem] at other
  cases other

/-- A number is written with the characters of decimals, or with those of a word. -/
theorem not_mem_write {c : Char} (other : isDecimalChar c = false)
    (noLetter : c ∉ "NaN-inf".toList) (x : Float) : c ∉ (Notation.plain.write x).toList := by
  intro mem
  by_cases finite : x.isFinite = true
  · rw [(isDecimal_write finite).isDecimalChar_of_mem mem] at other
    cases other
  · rcases write_of_not_isFinite finite with word | word | word <;> rw [word] at mem
    · exact noLetter ((by decide : "NaN".toList ⊆ "NaN-inf".toList) mem)
    · exact noLetter ((by decide : "inf".toList ⊆ "NaN-inf".toList) mem)
    · exact noLetter ((by decide : "-inf".toList ⊆ "NaN-inf".toList) mem)

/-! ## Decimals that are too large -/

/-- A letter of all words for numbers, which is not part of a decimal in either case. -/
theorem toLower_ne_of_isDecimalChar {c : Char} (decimal : isDecimalChar c = true) :
    c.toLower ≠ 'n' := by
  intro lower
  unfold Char.toLower at lower
  split at lower
  · have upper : c = 'N' := Char.ext (add_right_cancel (congrArg Char.val lower))
    subst upper
    exact absurd decimal (by decide)
  · subst lower
    exact absurd decimal (by decide)

theorem readWord_eq_none (decimal : ∀ c ∈ cs, isDecimalChar c = true) :
    Decimal.readWord cs = none := by
  have letter : 'n' ∉ cs.map Char.toLower := by
    intro mem
    obtain ⟨c, mem, lower⟩ := List.mem_map.mp mem
    exact toLower_ne_of_isDecimalChar (decimal c mem) lower
  have other (word : String) (has : 'n' ∈ word.toList) : cs.map Char.toLower ≠ word.toList :=
    fun same => letter (same ▸ has)
  simp only [Decimal.readWord, other "inf" (by decide), other "infinity" (by decide),
    other "nan" (by decide), or_self, if_false]

theorem isNaN_of_readFloat (number : IsDecimal cs) (read : Decimal.readFloat cs = some x) :
    x.isNaN = false := by
  have subset : (Decimal.readSign cs).2 ⊆ cs := by
    unfold Decimal.readSign
    split
    · exact List.subset_cons_self _ _
    · exact List.subset_cons_self _ _
    · exact List.Subset.refl _
  have word := readWord_eq_none fun c mem => number.isDecimalChar_of_mem (subset mem)
  simp only [Decimal.readFloat, word] at read
  obtain ⟨y, digits, same⟩ := Option.map_eq_some_iff.mp read
  cases unsigned : Decimal.readUnsigned (Decimal.readSign cs).2 with
  | none =>
      rw [unsigned] at digits
      cases digits
  | some z =>
      rw [unsigned] at digits
      cases digits
      have isNumber := Binary64.isNaN_of_readUnsigned unsigned
      subst same
      split
      · exact (Binary64.isNaN_neg y).trans isNumber
      · exact isNumber

/-- What a decimal is read as is infinite if it is not finite. -/
theorem isInf_of_readFloat (number : IsDecimal cs) (read : Decimal.readFloat cs = some x)
    (infinite : ¬ x.isFinite = true) : x.isInf = true :=
  Binary64.isInf_of_not_isFinite (isNaN_of_readFloat number read) infinite

/-! ## Whole texts -/

theorem toList_toText (s : RangeSpec) : s.toText.toList =
    s.kind.name.toList ++ ':' :: ((Notation.plain.write s.min).toList ++
      ';' :: ((Notation.plain.write s.reference).toList ++
        ';' :: (Notation.plain.write s.max).toList)) := by
  simp [toText]
  rfl

theorem parse_name (kind : RangeKind) : RangeKind.parse kind.name = kind := by
  cases kind <;> rfl

theorem isWordChar_of_letters
    (letters : cs.all (fun c => 0x61 ≤ c.toNat ∧ c.toNat ≤ 0x7A) = true) :
    ∀ c ∈ cs, isWordChar c = true := by
  intro c mem
  obtain ⟨lower, upper⟩ := of_decide_eq_true (List.all_eq_true.mp letters c mem)
  rw [isWordChar_of_ascii (by omega)]
  simp [CharRange.contains, lower, upper]

theorem isWordChar_of_mem_name (kind : RangeKind) : ∀ c ∈ kind.name.toList, isWordChar c = true :=
  isWordChar_of_letters (by cases kind <;> decide)

theorem parse?_toText_of_isFinite (finite : s.IsFinite) : parse? s.toText = some s := by
  refine parse?_eq_some_iff.mpr ⟨_, _, _, _, ⟨toList_toText s, ?_, ?_, isDecimal_write finite.min,
    isDecimal_write finite.reference, isDecimal_write finite.max⟩,
    Decimal.readFloat_write isPositional_plain finite.min,
    Decimal.readFloat_write isPositional_plain finite.reference,
    Decimal.readFloat_write isPositional_plain finite.max, ?_⟩
  · cases s.kind <;> decide
  · exact isWordChar_of_mem_name s.kind
  · rw [String.ofList_toList, parse_name]

/-- The numbers of a text that is read are the ones between the marks. -/
theorem isFinite_of_parse?_toText {t : RangeSpec} (read : parse? s.toText = some t) :
    s.IsFinite := by
  obtain ⟨name, min, reference, max, spells, -⟩ := parse?_eq_some_iff.mp read
  have cut := (toList_toText s).symm.trans spells.text
  have noMark {cs : List Char} (number : IsDecimal cs) : ';' ∉ cs :=
    fun mem => absurd (number.isDecimalChar_of_mem mem) (by decide)
  have colon : isWordChar ':' = false := (isWordChar_of_ascii (by decide)).trans (by decide)
  have noColon {cs : List Char} (word : ∀ c ∈ cs, isWordChar c = true) : ':' ∉ cs :=
    fun mem => absurd (word ':' mem) (by simp [colon])
  have named : ':' ∉ s.kind.name.toList := noColon (isWordChar_of_mem_name s.kind)
  -- Neither text has a mark within its parts, so both fall into the same parts.
  obtain ⟨-, cut⟩ := append_cons_inj named (noColon spells.word) cut
  have written (x : Float) : ';' ∉ (Notation.plain.write x).toList :=
    not_mem_write (by decide) (by decide) x
  obtain ⟨least, cut⟩ := append_cons_inj (written _) (noMark spells.min) cut
  obtain ⟨middle, most⟩ := append_cons_inj (written _) (noMark spells.reference) cut
  have finite {x : Float} {cs : List Char} (same : (Notation.plain.write x).toList = cs)
      (number : IsDecimal cs) : x.isFinite = true := by
    by_contra infinite
    exact not_isDecimal_write infinite (same ▸ number)
  exact ⟨finite least spells.min, finite middle spells.reference, finite most spells.max⟩

/-- A range spec that was read is shown as a text that it can be read from again, exactly if its
numbers are finite. Otherwise a decimal was too large, and is shown as the word for infinity. -/
theorem parse?_toText_of_parse? {text : String} (parsed : parse? text = some s) :
    (s.IsFinite → parse? s.toText = some s) ∧
      (¬ s.IsFinite → parse? s.toText = none ∧
        (s.min.isInf = true ∨ s.reference.isInf = true ∨ s.max.isInf = true)) := by
  refine ⟨parse?_toText_of_isFinite, fun infinite => ⟨?_, ?_⟩⟩
  · rw [Option.eq_none_iff_forall_ne_some]
    exact fun t read => infinite (isFinite_of_parse?_toText read)
  · obtain ⟨name, min, reference, max, spells, readMin, readReference, readMax, -⟩ :=
      parse?_eq_some_iff.mp parsed
    by_contra none
    simp only [not_or] at none
    refine infinite ⟨?_, ?_, ?_⟩ <;> by_contra overflows
    · exact none.1 (isInf_of_readFloat spells.min readMin overflows)
    · exact none.2.1 (isInf_of_readFloat spells.reference readReference overflows)
    · exact none.2.2 (isInf_of_readFloat spells.max readMax overflows)

/-- A kind that is not known is shown as the linear one, and rounded numbers as they are held. -/
theorem parse?_toText_of_parse?_rounded :
    let s : RangeSpec := ⟨.linear, -0.0, 0.1, 9007199254740992.0⟩
    parse? "cubic:-0.0;0.10;9007199254740993" = some s ∧
      s.toText = "linear:-0;0.1;9007199254740992" ∧ parse? s.toText = some s := by
  intro s
  have least : IsDecimal ('-' :: ['0'] ++ '.' :: ['0']) :=
    .fraction (.negative (isDigits_of_all (by decide))) (isDigits_of_all (by decide))
  have middle : IsDecimal (['0'] ++ '.' :: ['1', '0']) :=
    .fraction (.plain (isDigits_of_all (by decide))) (isDigits_of_all (by decide))
  have most : IsDecimal "9007199254740993".toList :=
    .whole (.plain (isDigits_of_all (by decide)))
  have spells : Spells "cubic:-0.0;0.10;9007199254740993".toList "cubic".toList "-0.0".toList
      "0.10".toList "9007199254740993".toList :=
    ⟨by decide, by decide, isWordChar_of_letters (by decide), least, middle, most⟩
  have parsed : parse? "cubic:-0.0;0.10;9007199254740993" = some s :=
    parse?_eq_some_iff.mpr ⟨_, _, _, _, spells, by decide +kernel, by decide +kernel,
      by decide +kernel, by decide +kernel⟩
  have finite : s.IsFinite := ⟨by decide +kernel, by decide +kernel, by decide +kernel⟩
  exact ⟨parsed, by decide +kernel, (parse?_toText_of_parse? parsed).1 finite⟩

/-- Not every range spec that is read is shown as a text that is read. -/
theorem exists_shown_not_read :
    ∃ (text : String) (s : RangeSpec), parse? text = some s ∧ parse? s.toText = none := by
  let digits : List Char := '1' :: List.replicate 309 '0'
  let s : RangeSpec := ⟨.linear, 0.0, 10.0, 1.0 / 0.0⟩
  have least : IsDecimal "0".toList := .whole (.plain (isDigits_of_all (by decide)))
  have middle : IsDecimal "10".toList := .whole (.plain (isDigits_of_all (by decide)))
  have most : IsDecimal digits := .whole (.plain (isDigits_of_all (by decide +kernel)))
  have spells : Spells (String.ofList ("linear:0;10;".toList ++ digits)).toList "linear".toList
      "0".toList "10".toList digits :=
    ⟨by rw [String.toList_ofList]; rfl, by decide, isWordChar_of_letters (by decide), least, middle,
      most⟩
  have parsed : parse? (String.ofList ("linear:0;10;".toList ++ digits)) = some s :=
    parse?_eq_some_iff.mpr ⟨_, _, _, _, spells, by decide +kernel, by decide +kernel,
      by decide +kernel, by decide +kernel⟩
  refine ⟨_, s, parsed, ?_⟩
  rw [Option.eq_none_iff_forall_ne_some]
  intro t read
  exact absurd (isFinite_of_parse?_toText read).max (by decide +kernel)

end Semblance.RangeSpec
