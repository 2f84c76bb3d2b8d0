import Semblance.Expr.Lexer
import Semblance.Proofs.Text.Spans

/-!
# What a token is read off

There are four kinds of tokens and a scanner for each. Every scanner leaves an end of the text that
it was given, and none looks further than the character that ends its token. So the same token is
read when the text is cut off behind it.
-/

namespace Semblance.Expr

/-- The characters that make a mark a longer one. -/
def Punct.goesOn : Punct → Char → Bool
  | question => (· == '?')
  | not | notEqual | equal | less | greater => (· == '=')
  | _ => fun _ => false

namespace Lexer

open Text

variable {c : Char} {cs rest text after more : List Char} {kind : TokenKind}

/-! ## Numbers -/

theorem scanNumber_cut {s : NumberState}
    (scanned : scanNumber s (cs ++ more) = (text, after ++ more)) :
    scanNumber s cs = (text, after) := by
  induction cs generalizing s text with
  | nil =>
      have whole := scanNumber_append s more
      rw [← List.nil_append more, scanned, List.nil_append, ← List.append_assoc] at whole
      obtain ⟨rfl, rfl⟩ := List.append_eq_nil_iff.mp (List.append_left_eq_self.mp whole)
      rfl
  | cons c rest ih =>
      rw [List.cons_append, scanNumber] at scanned
      rw [scanNumber]
      cases taken : s.next c with
      | none =>
          simp only [taken, ← List.cons_append, Prod.mk.injEq,
            List.append_cancel_right_eq] at scanned
          simp only [scanned]
      | some s =>
          simp only [taken, Prod.mk.injEq] at scanned
          obtain ⟨rfl, left⟩ := scanned
          simp only [ih (Prod.ext rfl left)]

/-! ## Strings -/

theorem scanString_suffix {quote : Char} (scanned : scanString quote cs = some (text, after)) :
    after <:+ cs := by
  fun_induction scanString quote cs generalizing text after with
  | case1 => cases scanned
  | case2 rest =>
      cases scanned
      exact List.suffix_cons quote rest
  | case3 => cases scanned
  | case4 e rest _ ih =>
      obtain ⟨⟨inner, after⟩, read, same⟩ := Option.map_eq_some_iff.mp scanned
      cases same
      exact (ih read).trans ((List.suffix_cons e rest).trans (List.suffix_cons _ _))
  | case5 c rest _ _ ih =>
      obtain ⟨⟨inner, after⟩, read, same⟩ := Option.map_eq_some_iff.mp scanned
      cases same
      exact (ih read).trans (List.suffix_cons c rest)

/-- A string ends with its quote, whatever follows. -/
theorem scanString_append {quote : Char} (scanned : scanString quote cs = some (text, after))
    (more : List Char) : scanString quote (cs ++ more) = some (text, after ++ more) := by
  fun_induction scanString quote cs generalizing text after with
  | case1 => cases scanned
  | case2 rest =>
      cases scanned
      rw [List.cons_append, scanString.eq_def]
      exact if_pos rfl
  | case3 => cases scanned
  | case4 e rest other ih =>
      obtain ⟨⟨inner, after⟩, read, same⟩ := Option.map_eq_some_iff.mp scanned
      cases same
      simp [scanString, other, ih read]
  | case5 c rest other plain ih =>
      obtain ⟨⟨inner, after⟩, read, same⟩ := Option.map_eq_some_iff.mp scanned
      cases same
      rw [List.cons_append, scanString.eq_def]
      simp [other, plain, ih read]

/-- A string that does not end in the text ends behind it, so some of what was put behind the text
is used up. -/
theorem scanString_open {quote : Char} {left : List Char} (opened : scanString quote cs = none)
    (scanned : scanString quote (cs ++ more) = some (text, left)) :
    left.length < more.length := by
  fun_induction scanString quote cs generalizing text with
  | case1 => exact scanString_after_lt scanned
  | case2 => cases opened
  | case3 other =>
      rw [List.cons_append, scanString.eq_def] at scanned
      cases more with
      | nil => simp [other] at scanned
      | cons e more =>
          simp only [List.nil_append, other, if_false, if_true, Option.map_eq_some_iff] at scanned
          obtain ⟨⟨inner, left⟩, read, same⟩ := scanned
          cases same
          exact Nat.lt_succ_of_lt (scanString_after_lt read)
  | case4 e rest other ih =>
      rw [List.cons_append, List.cons_append, scanString.eq_def] at scanned
      simp only [other, if_false, if_true, Option.map_eq_some_iff] at scanned
      obtain ⟨⟨inner, left⟩, read, same⟩ := scanned
      cases same
      exact ih (Option.map_eq_none_iff.mp opened) read
  | case5 c rest other plain ih =>
      rw [List.cons_append, scanString.eq_def] at scanned
      simp only [other, plain, if_false, Option.map_eq_some_iff] at scanned
      obtain ⟨⟨inner, left⟩, read, same⟩ := scanned
      cases same
      exact ih (Option.map_eq_none_iff.mp opened) read

theorem scanString_cut {quote : Char}
    (scanned : scanString quote (cs ++ more) = some (text, after ++ more)) :
    scanString quote cs = some (text, after) := by
  cases read : scanString quote cs with
  | none =>
      have used := scanString_open read scanned
      rw [List.length_append] at used
      omega
  | some pair =>
      have whole := scanString_append read more
      rw [scanned, Option.some.injEq, Prod.mk.injEq, List.append_cancel_right_eq] at whole
      exact congrArg some (Prod.ext whole.1.symm whole.2.symm)

/-! ## Marks -/

/-- The longest mark is taken. -/
theorem scanPunct_eq_some_iff {mark : Punct} : scanPunct cs = some (mark, after) ↔
    cs = mark.text.toList ++ after ∧ Stops mark.goesOn after := by
  constructor
  · intro scanned
    unfold scanPunct at scanned
    split at scanned <;> cases scanned <;> refine ⟨rfl, ?_⟩ <;> try exact fun _ _ => rfl
    all_goals exact stops_beq_iff.mpr ‹_›
  · rintro ⟨rfl, stops⟩
    cases mark <;> try rfl
    -- Left are the marks with which longer ones begin.
    all_goals
      have other := stops_beq_iff.mp stops
      simp only [Punct.text, String.reduceToList, List.cons_append, List.nil_append]
      rw [scanPunct]
      all_goals exact fun _ => other _

/-! ## Tokens -/

/-- How each kind of token is read off a text that starts with `c`. -/
inductive Scans (c : Char) (rest : List Char) : TokenKind → List Char → Prop
  | number {text after : List Char} {value : Float} (digit : isAsciiDigit c = true)
      (scanned : scanNumber {} (c :: rest) = (text, after))
      (reads : Decimal.readFloat text = some value) : Scans c rest (.number value) after
  | string {text after : List Char} (digit : ¬ isAsciiDigit c = true) (opens : c = '"' ∨ c = '\'')
      (scanned : scanString c rest = some (text, after)) :
      Scans c rest (.string (String.ofList text)) after
  | name {text after : List Char} (digit : ¬ isAsciiDigit c = true)
      (opens : ¬ (c = '"' ∨ c = '\'')) (starts : isNameStart c = true)
      (spans : rest.takeWhile isNameChar = text ∧ rest.dropWhile isNameChar = after) :
      Scans c rest (.identifier (String.ofList (c :: text))) after
  | mark {mark : Punct} {after : List Char} (digit : ¬ isAsciiDigit c = true)
      (opens : ¬ (c = '"' ∨ c = '\'')) (starts : ¬ isNameStart c = true)
      (scanned : scanPunct (c :: rest) = some (mark, after)) : Scans c rest (.punct mark) after

theorem scanToken_eq_ok_iff {offset : Nat} :
    scanToken offset c rest = .ok (kind, after) ↔ Scans c rest kind after := by
  constructor
  · intro scanned
    unfold scanToken at scanned
    split at scanned
    · rename_i digit
      cases read : Decimal.readFloat (scanNumber {} (c :: rest)).1 with
      | none => simp [read] at scanned
      | some value =>
          simp only [read] at scanned
          cases scanned
          exact .number digit rfl read
    · rename_i digit
      split at scanned
      · rename_i opens
        cases read : scanString c rest with
        | none => simp [read] at scanned
        | some pair =>
            simp only [read] at scanned
            cases scanned
            exact .string digit opens read
      · rename_i opens
        split at scanned
        · rename_i starts
          cases scanned
          exact .name digit opens starts ⟨rfl, rfl⟩
        · rename_i starts
          cases read : scanPunct (c :: rest) with
          | none => simp [read] at scanned
          | some pair =>
              simp only [read] at scanned
              cases scanned
              exact .mark digit opens starts read
  · intro scans
    unfold scanToken
    cases scans with
    | number digit scanned reads =>
        rw [if_pos digit, scanned]
        simp only [reads]
    | string digit opens scanned => rw [if_neg digit, if_pos opens, scanned]
    | name digit opens starts spans =>
        rw [if_neg digit, if_neg opens, if_pos starts, spans.1, spans.2]
    | mark digit opens starts scanned =>
        rw [if_neg digit, if_neg opens, if_neg starts, scanned]

/-- What can be wrong with a token. A number that is none has no place. -/
theorem error_of_scanToken {offset : Nat} {error : CompileError}
    (failed : scanToken offset c rest = .error error) :
    (∃ text, error = .invalidNumber text) ∨
      (error = .unterminatedString offset ∧ (c = '"' ∨ c = '\'')) ∨
      error = .unexpectedChar c offset := by
  unfold scanToken at failed
  split at failed
  · cases read : Decimal.readFloat (scanNumber {} (c :: rest)).1 with
    | none =>
        simp only [read] at failed
        cases failed
        exact .inl ⟨_, rfl⟩
    | some value => simp [read] at failed
  · split at failed
    · rename_i opens
      split at failed <;> cases failed
      exact .inr (.inl ⟨rfl, opens⟩)
    · split at failed
      · cases failed
      · split at failed <;> cases failed
        exact .inr (.inr rfl)

namespace Scans

theorem suffix (scans : Scans c rest kind after) : after <:+ c :: rest := by
  cases scans with
  | number _ scanned =>
      have split := scanNumber_append {} (c :: rest)
      rw [scanned] at split
      exact ⟨_, split⟩
  | string _ _ scanned => exact (scanString_suffix scanned).trans (List.suffix_cons c rest)
  | name _ _ _ spans =>
      obtain ⟨-, rfl⟩ := spans
      exact (List.dropWhile_suffix isNameChar).trans (List.suffix_cons c rest)
  | mark _ _ _ scanned =>
      obtain ⟨spelled, -⟩ := scanPunct_eq_some_iff.mp scanned
      exact ⟨_, spelled.symm⟩

/-- The first character belongs to the token. -/
theorem exists_taken (scans : Scans c rest kind after) : ∃ taken, rest = taken ++ after := by
  obtain ⟨front, whole⟩ := scans.suffix
  have shorter := scanToken_after_le ((scanToken_eq_ok_iff.mpr scans : scanToken 0 c rest = _))
  cases front with
  | nil =>
      rw [List.nil_append] at whole
      rw [whole, List.length_cons] at shorter
      omega
  | cons d taken => exact ⟨taken, (List.cons.inj whole).2.symm⟩

/-- What stands behind a token can be cut off. -/
theorem cut (scans : Scans c (rest ++ more) kind (after ++ more)) : Scans c rest kind after := by
  cases scans with
  | number digit scanned reads => exact .number digit (scanNumber_cut scanned) reads
  | string digit opens scanned => exact .string digit opens (scanString_cut scanned)
  | name digit opens starts spans =>
      obtain ⟨whole, named, stops⟩ := span_eq_iff.mp spans
      rw [← List.append_assoc, List.append_cancel_right_eq] at whole
      exact .name digit opens starts (span_eq_iff.mpr ⟨whole, named, stops.of_append⟩)
  | mark digit opens starts scanned =>
      obtain ⟨whole, stops⟩ := scanPunct_eq_some_iff.mp scanned
      rw [← List.cons_append, ← List.append_assoc, List.append_cancel_right_eq] at whole
      exact .mark digit opens starts (scanPunct_eq_some_iff.mpr ⟨whole, stops.of_append⟩)

end Scans

/-! ## The step to the next token -/

variable {offset : Nat}

theorem tokensFrom_blank (blank : isBlank c = true) (offset : Nat) (rest : List Char) :
    tokensFrom offset (c :: rest) = tokensFrom (offset + c.utf8Size) rest := by
  rw [tokensFrom, if_pos blank]

theorem tokensFrom_error {error : CompileError} (seen : ¬ isBlank c = true)
    (failed : scanToken offset c rest = .error error) :
    tokensFrom offset (c :: rest) = .error error := by
  rw [tokensFrom, if_neg seen]
  split
  · rename_i other scanned
    rw [failed] at scanned
    exact congrArg _ (Except.error.inj scanned).symm
  · rename_i kind after scanned
    rw [failed] at scanned
    cases scanned

theorem tokensFrom_token (seen : ¬ isBlank c = true)
    (scanned : scanToken offset c rest = .ok (kind, after)) :
    tokensFrom offset (c :: rest) =
      (tokensFrom (offset + (byteLength (c :: rest) - byteLength after)) after).map
        (⟨kind, offset⟩ :: ·) := by
  rw [tokensFrom, if_neg seen]
  split
  · rename_i error failed
    rw [scanned] at failed
    cases failed
  · rename_i kind' after' scanned'
    rw [scanned] at scanned'
    obtain ⟨rfl, rfl⟩ := Prod.mk.inj (Except.ok.inj scanned')
    cases tokensFrom (offset + (byteLength (c :: rest) - byteLength after)) after with
    | error error => rfl
    | ok tokens => rfl

theorem byteLength_taken (c : Char) (taken after : List Char) :
    byteLength (c :: (taken ++ after)) - byteLength after = byteLength (c :: taken) := by
  rw [← List.cons_append, byteLength_append, Nat.add_sub_cancel]

/-- The next token stands behind the characters that this one was read off. -/
theorem tokensFrom_scans {taken : List Char} (seen : ¬ isBlank c = true)
    (scans : Scans c (taken ++ after) kind after) (offset : Nat) :
    tokensFrom offset (c :: taken ++ after) =
      (tokensFrom (offset + byteLength (c :: taken)) after).map (⟨kind, offset⟩ :: ·) := by
  rw [List.cons_append, tokensFrom_token seen (scanToken_eq_ok_iff.mpr scans), byteLength_taken]

end Lexer

end Semblance.Expr
