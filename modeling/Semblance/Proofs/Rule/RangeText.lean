import Semblance.Proofs.CharSet
import Semblance.Proofs.Text.Spans
import Semblance.RangeSpec

/-!
# Texts of range specs

A range spec is a name, a colon and three decimals with semicolons between them. Every such text is
taken apart into these, and no other text is taken apart at all.
-/

namespace Semblance.RangeSpec

open Regex Text

/-- The numbers of the range are finite. -/
structure IsFinite (s : RangeSpec) : Prop where
  min : s.min.isFinite = true
  reference : s.reference.isFinite = true
  max : s.max.isFinite = true

/-! ## Decimals -/

/-- Digits of any script, at least one. -/
def IsDigits (cs : List Char) : Prop := cs ≠ [] ∧ ∀ c ∈ cs, isDecimalDigit c = true

/-- Digits, perhaps after a minus sign. -/
inductive IsWhole : List Char → Prop where
  | plain {digits : List Char} (number : IsDigits digits) : IsWhole digits
  | negative {digits : List Char} (number : IsDigits digits) : IsWhole ('-' :: digits)

/-- A whole number, perhaps with a fraction. -/
inductive IsDecimal : List Char → Prop where
  | whole {cs : List Char} (number : IsWhole cs) : IsDecimal cs
  | fraction {cs digits : List Char} (number : IsWhole cs) (part : IsDigits digits) :
      IsDecimal (cs ++ '.' :: digits)

variable {cs text rest : List Char}

theorem readDigits?_eq_some_iff : readDigits? cs = some (text, rest) ↔
    cs = text ++ rest ∧ IsDigits text ∧ Stops isDecimalDigit rest := by
  rw [IsDigits, and_assoc, and_left_comm, ← span_eq_iff]
  unfold readDigits?
  split
  · rename_i none
    refine iff_of_false nofun ?_
    rintro ⟨nonempty, rfl, -⟩
    exact nonempty none
  · rename_i some
    rw [Option.some.injEq, Prod.mk.injEq]
    constructor
    · rintro ⟨rfl, rest⟩
      exact ⟨some, rfl, rest⟩
    · exact And.right

theorem readWhole?_eq_some_iff : readWhole? cs = some (text, rest) ↔
    cs = text ++ rest ∧ IsWhole text ∧ Stops isDecimalDigit rest := by
  unfold readWhole?
  split
  · rename_i inner
    simp only [Option.map_eq_some_iff, Prod.exists, Prod.mk.injEq, readDigits?_eq_some_iff]
    constructor
    · rintro ⟨digits, after, ⟨rfl, number, stops⟩, rfl, rfl⟩
      exact ⟨rfl, .negative number, stops⟩
    · rintro ⟨same, number, stops⟩
      cases number with
      | negative number =>
          cases same
          exact ⟨_, _, ⟨rfl, number, stops⟩, rfl, rfl⟩
      | plain number =>
          -- A minus sign is no digit.
          obtain ⟨c, digits, rfl⟩ := List.exists_cons_of_ne_nil number.1
          cases same
          exact absurd (number.2 '-' List.mem_cons_self) (by decide)
  · rename_i unsigned
    rw [readDigits?_eq_some_iff]
    refine and_congr_right fun same => and_congr_left fun _ => ⟨.plain, fun number => ?_⟩
    cases number with
    | plain number => exact number
    | negative number => exact absurd same (unsigned _)

/-- The characters that a decimal could go on with. -/
def continues (c : Char) : Bool := c == '.' || isDecimalDigit c

theorem readNumber?_append (number : IsDecimal text) (stops : Stops continues rest) :
    readNumber? (text ++ rest) = some (text, rest) := by
  have noDigit : Stops isDecimalDigit rest :=
    fun c first => (Bool.or_eq_false_iff.mp (stops c first)).2
  cases number with
  | whole number =>
      have first : readWhole? (text ++ rest) = some (text, rest) :=
        readWhole?_eq_some_iff.mpr ⟨rfl, number, noDigit⟩
      simp only [readNumber?, first, Option.bind_eq_bind, Option.bind_some]
      split
      · exact absurd (stops '.' rfl) (by decide)
      · rfl
  | @fraction cs digits number part =>
      have first :
          readWhole? (cs ++ '.' :: (digits ++ rest)) = some (cs, '.' :: (digits ++ rest)) :=
        readWhole?_eq_some_iff.mpr ⟨rfl, number, stops_cons (by decide) _⟩
      have second : readDigits? (digits ++ rest) = some (digits, rest) :=
        readDigits?_eq_some_iff.mpr ⟨rfl, part, noDigit⟩
      rw [List.append_assoc, List.cons_append]
      simp only [readNumber?, first, second, Option.bind_eq_bind, Option.bind_some]
      rfl

theorem of_readNumber? (read : readNumber? cs = some (text, rest)) :
    cs = text ++ rest ∧ IsDecimal text := by
  simp only [readNumber?, Option.bind_eq_bind, Option.bind_eq_some_iff, Prod.exists,
    readWhole?_eq_some_iff] at read
  obtain ⟨whole, after, ⟨rfl, number, -⟩, read⟩ := read
  split at read
  · simp only [Option.bind_eq_some_iff, Prod.exists, readDigits?_eq_some_iff] at read
    obtain ⟨digits, last, ⟨rfl, part, -⟩, same⟩ := read
    cases same
    exact ⟨by rw [List.append_assoc, List.cons_append], .fraction number part⟩
  · cases read
    exact ⟨rfl, .whole number⟩

/-! ## Whole texts -/

theorem isWordChar_of_ascii {c : Char} (ascii : c.toNat < 128) : isWordChar c =
    [CharRange.mk 0x30 0x39, ⟨0x41, 0x5A⟩, ⟨0x5F, 0x5F⟩, ⟨0x61, 0x7A⟩].any
      (·.contains c.toNat) := by
  rw [isWordChar, if_pos ascii, asciiWordChars, CharSet.contains, CharSet.containsCode_ofRanges]

/-- The parts of a range spec, and how its text is put together from them. -/
structure Spells (cs name min reference max : List Char) : Prop where
  text : cs = name ++ ':' :: (min ++ ';' :: (reference ++ ';' :: max))
  named : name ≠ []
  word : ∀ c ∈ name, isWordChar c = true
  min : IsDecimal min
  reference : IsDecimal reference
  max : IsDecimal max

theorem split?_eq_some_iff {name min reference max : List Char} :
    split? cs = some (name, min, reference, max) ↔ Spells cs name min reference max := by
  constructor
  · intro whole
    simp only [split?, Option.bind_eq_bind] at whole
    split at whole
    · cases whole
    · rename_i named
      split at whole
      · rename_i rest colon
        obtain ⟨front, word, -⟩ := span_eq_iff.mp ⟨rfl, colon⟩
        simp only [Option.bind_eq_some_iff, Prod.exists] at whole
        obtain ⟨least, rest, readMin, whole⟩ := whole
        split at whole
        · simp only [Option.bind_eq_some_iff, Prod.exists] at whole
          obtain ⟨middle, rest, readReference, whole⟩ := whole
          split at whole
          · simp only [Option.bind_eq_some_iff, Prod.exists] at whole
            obtain ⟨most, rest, readMax, whole⟩ := whole
            split at whole
            · rename_i ended
              cases whole
              obtain ⟨rfl, isMin⟩ := of_readNumber? readMin
              obtain ⟨rfl, isReference⟩ := of_readNumber? readReference
              obtain ⟨rfl, isMax⟩ := of_readNumber? readMax
              rw [List.isEmpty_iff.mp ended, List.append_nil] at front
              exact ⟨front, by simpa using named, word, isMin, isReference, isMax⟩
            · cases whole
          · cases whole
        · cases whole
      · cases whole
  · rintro ⟨rfl, named, word, isMin, isReference, isMax⟩
    have colon : isWordChar ':' = false := (isWordChar_of_ascii (by decide)).trans (by decide)
    have front := span_eq_iff.mpr
      ⟨rfl, word, stops_cons colon (min ++ ';' :: (reference ++ ';' :: max))⟩
    have mark (more : List Char) : Stops continues (';' :: more) := stops_cons (by decide) more
    have readMax := readNumber?_append isMax (stops_nil (p := continues))
    rw [List.append_nil] at readMax
    simp only [split?, front.1, front.2, readNumber?_append isMin (mark _),
      readNumber?_append isReference (mark _), readMax, Option.bind_eq_bind, Option.bind_some,
      List.isEmpty_eq_false_iff.mpr named]
    rfl

theorem parse?_eq_some_iff {text : String} {spec : RangeSpec} : parse? text = some spec ↔
    ∃ name min reference max, Spells text.toList name min reference max ∧
      Decimal.readFloat min = some spec.min ∧
      Decimal.readFloat reference = some spec.reference ∧
      Decimal.readFloat max = some spec.max ∧ spec.kind = .parse (String.ofList name) := by
  obtain ⟨kind, least, middle, most⟩ := spec
  simp only [parse?, Option.bind_eq_bind, Option.bind_eq_some_iff, Prod.exists,
    split?_eq_some_iff]
  constructor
  · rintro ⟨name, min, reference, max, spells, _, readMin, _, readReference, _, readMax, same⟩
    cases same
    exact ⟨name, min, reference, max, spells, readMin, readReference, readMax, rfl⟩
  · rintro ⟨name, min, reference, max, spells, readMin, readReference, readMax, rfl⟩
    exact ⟨name, min, reference, max, spells, _, readMin, _, readReference, _, readMax, rfl⟩

/-! ## The characters of range specs -/

/-- A character that some decimal has. -/
def isDecimalChar (c : Char) : Bool := isDecimalDigit c || ['-', '.'].contains c

theorem IsDecimal.isDecimalChar_of_mem (number : IsDecimal text) {c : Char} (mem : c ∈ text) :
    isDecimalChar c = true := by
  have digits {cs : List Char} (number : IsDigits cs) (mem : c ∈ cs) : isDecimalChar c = true := by
    simp [isDecimalChar, number.2 c mem]
  have whole {cs : List Char} (number : IsWhole cs) (mem : c ∈ cs) : isDecimalChar c = true := by
    cases number with
    | plain number => exact digits number mem
    | negative number =>
        rcases List.mem_cons.mp mem with rfl | mem
        · simp [isDecimalChar]
        · exact digits number mem
  cases number with
  | whole number => exact whole number mem
  | fraction number part =>
      rcases List.mem_append.mp mem with mem | mem
      · exact whole number mem
      · rcases List.mem_cons.mp mem with rfl | mem
        · simp [isDecimalChar]
        · exact digits part mem

/-- A character that some range spec has. -/
def isSpecChar (c : Char) : Bool :=
  isWordChar c || isDecimalDigit c || [':', ';', '-', '.'].contains c

theorem IsDecimal.isSpecChar_of_mem (number : IsDecimal text) {c : Char} (mem : c ∈ text) :
    isSpecChar c = true := by
  have decimal := number.isDecimalChar_of_mem mem
  simp only [isDecimalChar, Bool.or_eq_true, List.contains_eq_mem, decide_eq_true_eq] at decimal
  rcases decimal with digit | mark
  · simp [isSpecChar, digit]
  · have among : c ∈ [':', ';', '-', '.'] := List.mem_of_mem_drop (i := 2) mark
    simp [isSpecChar, among]

theorem Spells.isSpecChar_of_mem {name min reference max : List Char}
    (spells : Spells cs name min reference max) {c : Char} (mem : c ∈ cs) :
    isSpecChar c = true := by
  have mark (m : Char) (inMarks : m ∈ [':', ';', '-', '.']) : isSpecChar m = true := by
    simp [isSpecChar, inMarks]
  simp only [spells.text, List.mem_append, List.mem_cons] at mem
  rcases mem with mem | rfl | mem | rfl | mem | rfl | mem
  · simp [isSpecChar, spells.word c mem]
  · exact mark ':' (by decide)
  · exact spells.min.isSpecChar_of_mem mem
  · exact mark ';' (by decide)
  · exact spells.reference.isSpecChar_of_mem mem
  · exact mark ';' (by decide)
  · exact spells.max.isSpecChar_of_mem mem

theorem isSpecChar_of_parse? {text : String} {spec : RangeSpec} (parsed : parse? text = some spec)
    {c : Char} (mem : c ∈ text.toList) : isSpecChar c = true := by
  obtain ⟨name, min, reference, max, spells, -⟩ := parse?_eq_some_iff.mp parsed
  exact spells.isSpecChar_of_mem mem

theorem isSpecChar_quote {c : Char} (quote : c = '"' ∨ c = '\'') : isSpecChar c = false := by
  rcases quote with rfl | rfl
  all_goals
    rw [isSpecChar, isWordChar_of_ascii (by decide)]
    decide

end Semblance.RangeSpec
