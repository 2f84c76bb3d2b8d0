import Semblance.Proofs.Expr.Scanning

/-!
# Nothing of a source is lost

Every character of a source is a blank or belongs to the range of one token, and what stands in a
range is that token when it is read alone. A source that cannot be read is read up to the place of
the error.
-/

namespace Semblance.Expr

open Text

/-- A token with the byte offset of its end. -/
structure Span where
  token : Token
  stop : Nat

namespace Lexer

variable {offset : Nat} {cs before after part : List Char} {c : Char} {spans : List Span}

/-! ## Texts of tokens -/

/-- A text in parts: blanks, and parts that are one token each. -/
inductive Segmented : Nat → List Char → List Span → Prop
  | nil {offset : Nat} : Segmented offset [] []
  | blank {offset : Nat} {c : Char} {rest : List Char} {spans : List Span}
      (blank : isBlank c = true) (later : Segmented (offset + c.utf8Size) rest spans) :
      Segmented offset (c :: rest) spans
  | token {offset : Nat} {part rest : List Char} {kind : TokenKind} {spans : List Span}
      (alone : tokensFrom 0 part = .ok [⟨kind, 0⟩])
      (later : Segmented (offset + byteLength part) rest spans) :
      Segmented offset (part ++ rest) (⟨⟨kind, offset⟩, offset + byteLength part⟩ :: spans)

/-- What a token was read off is that token alone. -/
theorem Scans.alone {taken : List Char} {kind : TokenKind} (seen : ¬ isBlank c = true)
    (scans : Scans c (taken ++ after) kind after) :
    tokensFrom 0 (c :: taken) = .ok [⟨kind, 0⟩] := by
  have cut : Scans c taken kind [] := scans.cut
  rw [← List.append_nil taken] at cut
  rw [← List.append_nil (c :: taken), tokensFrom_scans seen cut, tokensFrom]
  rfl

theorem exists_segmented {tokens : List Token} (read : tokensFrom offset cs = .ok tokens) :
    ∃ spans : List Span, spans.map (·.token) = tokens ∧ Segmented offset cs spans := by
  fun_induction tokensFrom offset cs generalizing tokens with
  | case1 =>
      cases read
      exact ⟨[], rfl, .nil⟩
  | case2 offset c rest blank ih =>
      obtain ⟨spans, same, later⟩ := ih read
      exact ⟨spans, same, .blank blank later⟩
  | case3 => cases read
  | case4 => cases read
  | case5 offset c rest seen kind after scanned tokens inner ih =>
      cases read
      have scans := scanToken_eq_ok_iff.mp scanned
      obtain ⟨taken, rfl⟩ := scans.exists_taken
      obtain ⟨spans, rfl, later⟩ := ih inner
      rw [byteLength_taken] at later
      exact ⟨_, rfl, .token (scans.alone seen) later⟩

theorem byteLength_pos_of_alone {kind : TokenKind} (alone : tokensFrom 0 part = .ok [⟨kind, 0⟩]) :
    0 < byteLength part := by
  cases part with
  | nil =>
      rw [tokensFrom] at alone
      cases alone
  | cons c rest => exact Nat.add_pos_left c.utf8Size_pos _

namespace Segmented

theorem offset_le (segmented : Segmented offset cs spans) :
    ∀ span ∈ spans, offset ≤ span.token.offset := by
  induction segmented with
  | nil => nofun
  | blank _ _ ih => exact fun span mem => (Nat.le_add_right _ _).trans (ih span mem)
  | token _ _ ih =>
      refine List.forall_mem_cons.mpr ⟨Nat.le_refl _, fun span mem => ?_⟩
      exact (Nat.le_add_right _ _).trans (ih span mem)

theorem nonempty (segmented : Segmented offset cs spans) :
    ∀ span ∈ spans, span.token.offset < span.stop := by
  induction segmented with
  | nil => nofun
  | blank _ _ ih => exact ih
  | token alone _ ih =>
      exact List.forall_mem_cons.mpr
        ⟨Nat.lt_add_of_pos_right (byteLength_pos_of_alone alone), ih⟩

theorem disjoint (segmented : Segmented offset cs spans) :
    spans.Pairwise fun a b => a.stop ≤ b.token.offset := by
  induction segmented with
  | nil => exact .nil
  | blank _ _ ih => exact ih
  | token _ later ih => exact List.pairwise_cons.mpr ⟨later.offset_le, ih⟩

theorem alone (segmented : Segmented offset cs spans) : ∀ span ∈ spans,
    ∃ before part after, cs = before ++ part ++ after ∧
      span.token.offset = offset + byteLength before ∧
      span.stop = span.token.offset + byteLength part ∧
      tokensFrom 0 part = .ok [⟨span.token.kind, 0⟩] := by
  induction segmented with
  | nil => nofun
  | @blank _ c _ _ _ _ ih =>
      intro span mem
      obtain ⟨before, part, after, rfl, start, stop, alone⟩ := ih span mem
      refine ⟨c :: before, part, after, rfl, ?_, stop, alone⟩
      rw [start, byteLength, Nat.add_assoc]
  | @token _ first rest _ _ alone _ ih =>
      refine List.forall_mem_cons.mpr ⟨⟨[], first, rest, rfl, rfl, rfl, alone⟩, ?_⟩
      intro span mem
      obtain ⟨before, part, after, rfl, start, stop, alone⟩ := ih span mem
      refine ⟨first ++ before, part, after, by simp only [List.append_assoc], ?_, stop, alone⟩
      rw [start, byteLength_append, Nat.add_assoc]

/-- A character that is in no range is a blank. -/
theorem isBlank_of_outside (segmented : Segmented offset cs spans)
    (whole : cs = before ++ c :: after)
    (outside : ∀ span ∈ spans, offset + byteLength before < span.token.offset ∨
      span.stop ≤ offset + byteLength before) : isBlank c = true := by
  induction segmented generalizing before with
  | nil => simp at whole
  | @blank offset d rest _ blank _ ih =>
      cases before with
      | nil =>
          cases whole
          exact blank
      | cons d before =>
          cases whole
          rw [byteLength, ← Nat.add_assoc] at outside
          exact ih rfl outside
  | @token offset part rest _ _ _ _ ih =>
      obtain ⟨first, others⟩ := List.forall_mem_cons.mp outside
      dsimp only at first
      rcases List.append_eq_append_iff.mp whole with ⟨more, rfl, same⟩ | ⟨more, rfl, same⟩
      · rw [byteLength_append, ← Nat.add_assoc] at others
        exact ih same others
      · cases more with
        | nil =>
            have behind : rest = [] ++ c :: after := same.symm
            rw [List.append_nil] at ih
            exact ih behind others
        | cons d more =>
            -- The character stands within the first part.
            rw [byteLength_append, byteLength] at first
            have some := d.utf8Size_pos
            omega

end Segmented

/-! ## Texts that cannot be read -/

/-- All that stands before a token that cannot be read is read. -/
theorem exists_of_tokensFrom_eq_error {error : CompileError}
    (failed : tokensFrom offset cs = .error error) :
    ∃ before c after tokens, cs = before ++ c :: after ∧ tokensFrom offset before = .ok tokens ∧
      scanToken (offset + byteLength before) c after = .error error := by
  fun_induction tokensFrom offset cs with
  | case1 => cases failed
  | case2 offset c rest blank ih =>
      obtain ⟨before, d, after, tokens, rfl, read, broken⟩ := ih failed
      refine ⟨c :: before, d, after, tokens, rfl, (tokensFrom_blank blank ..).trans read, ?_⟩
      rw [byteLength, ← Nat.add_assoc]
      exact broken
  | case3 offset c rest _ error broken =>
      cases failed
      exact ⟨[], c, rest, [], rfl, by rw [tokensFrom], broken⟩
  | case4 offset c rest seen kind after scanned error inner ih =>
      cases failed
      have scans := scanToken_eq_ok_iff.mp scanned
      obtain ⟨taken, rfl⟩ := scans.exists_taken
      rw [byteLength_taken] at ih inner
      obtain ⟨before, d, after, tokens, rfl, read, broken⟩ := ih inner
      rw [← List.append_assoc] at scans
      have front : tokensFrom offset (c :: taken ++ before) = .ok (⟨kind, offset⟩ :: tokens) := by
        rw [tokensFrom_scans seen scans.cut, read]
        rfl
      refine ⟨c :: taken ++ before, d, after, _, by simp, front, ?_⟩
      rw [byteLength_append, ← Nat.add_assoc]
      exact broken
  | case5 => cases failed

end Lexer

open Lexer

/-! ## Sources -/

/-- The part of the source that begins at this offset. -/
def StandsAt (source : String) (offset : Nat) (part : String) : Prop :=
  ∃ before after, source = before ++ part ++ after ∧ before.utf8ByteSize = offset

/-- The ranges of tokens are not empty and lie one behind the other. What stands in one is read as
its token alone, and there are only blanks outside. -/
structure Covers (source : String) (spans : List Span) : Prop where
  nonempty : ∀ span ∈ spans, span.token.offset < span.stop
  increasing : spans.Pairwise fun a b => a.token.offset < b.token.offset
  disjoint : spans.Pairwise fun a b => a.stop ≤ b.token.offset
  alone : ∀ span ∈ spans, ∃ part, StandsAt source span.token.offset part ∧
    span.stop = span.token.offset + part.utf8ByteSize ∧ tokenize part = .ok [⟨span.token.kind, 0⟩]
  blank : ∀ c offset, StandsAt source offset (String.singleton c) →
    (∀ span ∈ spans, offset < span.token.offset ∨ span.stop ≤ offset) → isBlank c = true

/-- The source has this character at an offset up to which it is read. -/
def ReadUpTo (source : String) (offset : Nat) (c : Char) : Prop :=
  ∃ before after tokens, source = before ++ String.singleton c ++ after ∧
    before.utf8ByteSize = offset ∧ tokenize before = .ok tokens

theorem utf8ByteSize_ofList (cs : List Char) :
    (String.ofList cs).utf8ByteSize = byteLength cs := by
  rw [← byteLength_toList, String.toList_ofList]

theorem tokenize_ofList (cs : List Char) : tokenize (String.ofList cs) = tokensFrom 0 cs := by
  rw [tokenize, String.toList_ofList]

theorem eq_append_of_toList {source : String} {before part after : List Char}
    (whole : source.toList = before ++ part ++ after) :
    source = String.ofList before ++ String.ofList part ++ String.ofList after := by
  rw [← String.toList_inj, whole, String.toList_append, String.toList_append,
    String.toList_ofList, String.toList_ofList, String.toList_ofList]

theorem covers_of_segmented {source : String} {spans : List Span}
    (segmented : Segmented 0 source.toList spans) : Covers source spans where
  nonempty := segmented.nonempty
  increasing := by
    have before := segmented.nonempty
    refine segmented.disjoint.imp_of_mem ?_
    intro a b mem _ disjoint
    exact (before a mem).trans_le disjoint
  disjoint := segmented.disjoint
  alone span mem := by
    obtain ⟨before, part, after, whole, start, stop, alone⟩ := segmented.alone span mem
    rw [Nat.zero_add, ← utf8ByteSize_ofList] at start
    refine ⟨String.ofList part, ⟨_, _, eq_append_of_toList whole, start.symm⟩, ?_, ?_⟩
    · rw [stop, utf8ByteSize_ofList]
    · rw [tokenize_ofList, alone]
  blank c offset stands outside := by
    obtain ⟨before, after, rfl, rfl⟩ := stands
    have whole : (before ++ String.singleton c ++ after).toList =
        before.toList ++ c :: after.toList := by simp
    refine segmented.isBlank_of_outside whole ?_
    rw [Nat.zero_add, byteLength_toList]
    exact outside

theorem exists_of_tokenize_eq_error {source : String} {error : CompileError}
    (failed : tokenize source = .error error) : (∃ text, error = .invalidNumber text) ∨
      ∃ offset c, ReadUpTo source offset c ∧
        ((error = .unterminatedString offset ∧ (c = '"' ∨ c = '\'')) ∨
          error = .unexpectedChar c offset) := by
  obtain ⟨before, c, after, tokens, whole, read, broken⟩ := exists_of_tokensFrom_eq_error failed
  rw [Nat.zero_add] at broken
  rw [List.append_cons] at whole
  have place : ReadUpTo source (byteLength before) c :=
    ⟨String.ofList before, String.ofList after, tokens, eq_append_of_toList whole,
      utf8ByteSize_ofList before, (tokenize_ofList before).trans read⟩
  exact (error_of_scanToken broken).imp_right fun shape => ⟨byteLength before, c, place, shape⟩

/-- The ranges of the tokens cover a source but for its blanks. A source with a character that
begins no token, or a string that does not end, has that character or a quote at the place that is
reported, and all before that place is read. -/
theorem tokenize_losesNothing (source : String) :
    (∀ tokens, tokenize source = .ok tokens →
      ∃ spans : List Span, spans.map (·.token) = tokens ∧ Covers source spans) ∧
    (∀ c offset, tokenize source = .error (.unexpectedChar c offset) →
      ReadUpTo source offset c) ∧
    ∀ offset, tokenize source = .error (.unterminatedString offset) →
      ReadUpTo source offset '"' ∨ ReadUpTo source offset '\'' := by
  refine ⟨fun tokens read => ?_, fun c offset failed => ?_, fun offset failed => ?_⟩
  · obtain ⟨spans, same, segmented⟩ := exists_segmented read
    exact ⟨spans, same, covers_of_segmented segmented⟩
  · rcases exists_of_tokenize_eq_error failed with
      ⟨text, same⟩ | ⟨_, _, stands, ⟨same, -⟩ | same⟩ <;> cases same
    exact stands
  · rcases exists_of_tokenize_eq_error failed with
      ⟨text, same⟩ | ⟨_, _, stands, ⟨same, quote⟩ | same⟩ <;> cases same
    rcases quote with rfl | rfl
    · exact .inl stands
    · exact .inr stands

/-- Marks between a string of wide letters and a number, a lone mark behind a wide blank, and a
string that an escaped quote does not end. -/
theorem tokenize_losesNothing_wide :
    (∃ spans : List Span, spans.map (·.token) =
        [⟨.string "größe", 0⟩, ⟨.punct .less, 9⟩, ⟨.punct .not, 10⟩, ⟨.number 1.5, 11⟩] ∧
      Covers "'größe'<!1.5" spans) ∧
      ReadUpTo "\u2003a & b" 5 '&' ∧
      (ReadUpTo "'é'=='b\\'" 6 '"' ∨ ReadUpTo "'é'=='b\\'" 6 '\'') := by
  refine ⟨(tokenize_losesNothing _).1 _ ?_, (tokenize_losesNothing _).2.1 _ _ ?_,
    (tokenize_losesNothing _).2.2 _ ?_⟩
  · decide +kernel
  · decide +kernel
  · decide +kernel

end Semblance.Expr
