import Mathlib.Control.Monad.Basic
import Semblance.Proofs.Expr.Scanning
import Semblance.Proofs.Text.Classes

/-!
# Blanks between tokens

No scanner looks past a blank outside a string. So a source cut at a blank can be read in two parts:
the tokens of what comes before, and then those of what comes after with their offsets moved.
-/

namespace Semblance.Expr

open Text

/-! ## Moving tokens -/

def Token.shift (bytes : Nat) (token : Token) : Token :=
  { token with offset := token.offset + bytes }

namespace CompileError

/-- Move the place of an error. Some errors have none. -/
def shift (bytes : Nat) : CompileError → CompileError
  | unexpectedChar char offset => unexpectedChar char (offset + bytes)
  | unterminatedString offset => unterminatedString (offset + bytes)
  | invalidNumber text => invalidNumber text
  | unexpectedToken found expected offset => unexpectedToken found expected (offset + bytes)
  | unexpectedEnd expected => unexpectedEnd expected
  | invalidCall offset => invalidCall (offset + bytes)
  | limit error => limit error

end CompileError

namespace Lexer

/-- Move what reading a text gave. -/
def shift (bytes : Nat) : Except CompileError (List Token) → Except CompileError (List Token)
  | .ok tokens => .ok (tokens.map (Token.shift bytes))
  | .error error => .error (error.shift bytes)

/-! ## A text read at another offset -/

theorem scanToken_shift (bytes offset : Nat) (c : Char) (rest : List Char) :
    scanToken (offset + bytes) c rest =
      (scanToken offset c rest).mapError (CompileError.shift bytes) := by
  unfold scanToken
  split
  · obtain ⟨text, after⟩ := scanNumber {} (c :: rest)
    cases read : Decimal.readFloat text with
    | none => simp only [read]; rfl
    | some value => simp only [read]; rfl
  · split
    · cases scanString c rest with
      | none => rfl
      | some pair => rfl
    · split
      · rfl
      · cases scanPunct (c :: rest) with
        | none => rfl
        | some pair => rfl

/-- Where a text stands matters to the offsets only. -/
theorem tokensFrom_shift (bytes offset : Nat) (cs : List Char) :
    tokensFrom (offset + bytes) cs = shift bytes (tokensFrom offset cs) := by
  fun_induction tokensFrom offset cs with
  | case1 offset => simp [tokensFrom, shift]
  | case2 offset c rest blank ih =>
      rw [tokensFrom_blank blank, Nat.add_right_comm, ih]
  | case3 offset c rest seen error failed =>
      have moved := scanToken_shift bytes offset c rest
      rw [failed] at moved
      rw [tokensFrom_error seen moved]
      rfl
  | case4 offset c rest seen kind after scanned error failed ih =>
      have moved := scanToken_shift bytes offset c rest
      rw [scanned] at moved
      rw [tokensFrom_token seen moved, Nat.add_right_comm, ih, failed]
      rfl
  | case5 offset c rest seen kind after scanned tokens read ih =>
      have moved := scanToken_shift bytes offset c rest
      rw [scanned] at moved
      rw [tokensFrom_token seen moved, Nat.add_right_comm, ih, read]
      rfl

/-! ## Scanners before a blank -/

section Blank

variable {b : Char} (blank : isBlank b = true)
include blank

theorem ne_of_isBlank {c : Char} (shown : 32 < c.toNat ∧ c.toNat < 128) : b ≠ c := by
  rintro rfl
  have code := toNat_of_isBlank blank
  omega

theorem next_of_isBlank (s : NumberState) : s.next b = none := by
  simp [NumberState.next, isAsciiDigit_of_isBlank blank,
    ne_of_isBlank blank (c := '.') (by decide), ne_of_isBlank blank (c := 'e') (by decide),
    ne_of_isBlank blank (c := 'E') (by decide), ne_of_isBlank blank (c := '+') (by decide),
    ne_of_isBlank blank (c := '-') (by decide)]

theorem isNameChar_of_isBlank : isNameChar b = false := by
  simp [isNameChar, isAlphanumeric_of_isBlank blank,
    ne_of_isBlank blank (c := '_') (by decide), ne_of_isBlank blank (c := '$') (by decide)]

theorem goesOn_of_isBlank (mark : Punct) : mark.goesOn b = false := by
  have question := ne_of_isBlank blank (c := '?') (by decide)
  have equal := ne_of_isBlank blank (c := '=') (by decide)
  cases mark <;> simp [Punct.goesOn, question, equal]

variable (more : List Char)

theorem scanNumber_before_blank (s : NumberState) (cs : List Char) :
    scanNumber s (cs ++ b :: more) =
      ((scanNumber s cs).1, (scanNumber s cs).2 ++ b :: more) := by
  induction cs generalizing s with
  | nil => simp [scanNumber, next_of_isBlank blank]
  | cons c rest ih =>
      rw [List.cons_append, scanNumber, scanNumber]
      cases s.next c with
      | none => rfl
      | some s => simp [ih]

/-- A token ends where it did when a blank follows the text. -/
theorem Scans.before_blank {c : Char} {rest after : List Char} {kind : TokenKind}
    (scans : Scans c rest kind after) : Scans c (rest ++ b :: more) kind (after ++ b :: more) := by
  cases scans with
  | number digit scanned reads =>
      refine .number digit ?_ reads
      rw [← List.cons_append, scanNumber_before_blank blank, scanned]
  | string digit opens scanned => exact .string digit opens (scanString_append scanned _)
  | name digit opens starts spans =>
      obtain ⟨rfl, named, stops⟩ := span_eq_iff.mp spans
      refine .name digit opens starts (span_eq_iff.mpr ⟨List.append_assoc .., named, ?_⟩)
      exact stops.append_cons (isNameChar_of_isBlank blank) more
  | mark digit opens starts scanned =>
      obtain ⟨spelled, stops⟩ := scanPunct_eq_some_iff.mp scanned
      refine .mark digit opens starts (scanPunct_eq_some_iff.mpr ⟨?_, ?_⟩)
      · rw [← List.cons_append, spelled, List.append_assoc]
      · exact stops.append_cons (goesOn_of_isBlank blank _) more

/-- A text that was read goes on to be read where a blank was put behind it. -/
theorem tokensFrom_before_blank {offset : Nat} {cs : List Char} {tokens : List Token}
    (read : tokensFrom offset cs = .ok tokens) :
    tokensFrom offset (cs ++ b :: more) =
      (tokensFrom (offset + byteLength cs) (b :: more)).map (tokens ++ ·) := by
  fun_induction tokensFrom offset cs generalizing tokens with
  | case1 offset =>
      cases read
      rw [List.nil_append, byteLength, Nat.add_zero]
      cases tokensFrom offset (b :: more) <;> rfl
  | case2 offset c rest isBlank ih =>
      rw [List.cons_append, tokensFrom_blank isBlank, ih read, byteLength, Nat.add_assoc]
  | case3 => cases read
  | case4 => cases read
  | case5 offset c rest seen kind after scanned later inner ih =>
      cases read
      have scans := scanToken_eq_ok_iff.mp scanned
      obtain ⟨taken, rfl⟩ := scans.exists_taken
      rw [byteLength_taken] at ih inner
      have whole := scans.before_blank blank more
      rw [List.append_assoc] at whole
      rw [List.cons_append, List.append_assoc, ← List.cons_append, tokensFrom_scans seen whole,
        ih inner, Nat.add_assoc, ← byteLength_append, List.cons_append]
      cases tokensFrom (offset + byteLength (c :: (taken ++ after))) (b :: more) <;> rfl

end Blank

theorem tokensFrom_blanks {between : List Char} (blank : ∀ c ∈ between, isBlank c = true)
    (offset : Nat) (cs : List Char) :
    tokensFrom offset (between ++ cs) = tokensFrom (offset + byteLength between) cs := by
  induction between generalizing offset with
  | nil => rfl
  | cons b rest ih =>
      obtain ⟨first, others⟩ := List.forall_mem_cons.mp blank
      rw [List.cons_append, tokensFrom_blank first, ih others, byteLength, Nat.add_assoc]

end Lexer

open Lexer

/-- A source with blanks in it is read as its two parts are, the later one moved by the bytes before
it. When the later part is no text of tokens, the whole is none for the same reason. -/
theorem tokenize_across_blanks {before between : String} {tokens : List Token}
    (read : tokenize before = .ok tokens) (blank : ∀ c ∈ between.toList, isBlank c = true)
    (apart : between ≠ "") (after : String) :
    tokenize (before ++ between ++ after) =
      match tokenize after with
      | .ok later => .ok (tokens ++ later.map (Token.shift (before ++ between).utf8ByteSize))
      | .error error => .error (error.shift (before ++ between).utf8ByteSize) := by
  obtain ⟨b, rest, front⟩ : ∃ b rest, between.toList = b :: rest := by
    cases front : between.toList with
    | nil => exact absurd (String.toList_eq_nil_iff.mp front) apart
    | cons b rest => exact ⟨b, rest, rfl⟩
  have first : isBlank b = true := blank b (front ▸ List.mem_cons_self)
  have cut := tokensFrom_before_blank first (rest ++ after.toList) read
  have bytes : byteLength before.toList + byteLength between.toList =
      0 + (before ++ between).utf8ByteSize := by
    rw [Nat.zero_add, byteLength_toList, byteLength_toList, String.utf8ByteSize_append]
  calc tokenize (before ++ between ++ after)
      = tokensFrom 0 (before.toList ++ b :: (rest ++ after.toList)) := by
        rw [tokenize, String.toList_append, String.toList_append, front, List.append_assoc,
          List.cons_append]
    _ = (tokensFrom (byteLength before.toList) (between.toList ++ after.toList)).map
          (tokens ++ ·) := by
        rw [cut, Nat.zero_add, front, List.cons_append]
    _ = (shift (before ++ between).utf8ByteSize (tokenize after)).map (tokens ++ ·) := by
        rw [tokensFrom_blanks blank, bytes, tokensFrom_shift, tokenize]
    _ = _ := by cases tokenize after <;> rfl

/-- A mark is not made longer across blanks, and the places of the later part count the four bytes
between. -/
theorem tokenize_across_wide_blanks :
    tokenize "ab<" = .ok [⟨.identifier "ab", 0⟩, ⟨.punct .less, 2⟩] ∧
      tokenize ("ab<" ++ "\u2003 " ++ "==c") =
        .ok [⟨.identifier "ab", 0⟩, ⟨.punct .less, 2⟩, ⟨.punct .equal, 7⟩, ⟨.identifier "c", 9⟩] ∧
      tokenize ("ab<" ++ "\u2003 " ++ "=='c") = .error (.unterminatedString 9) := by
  have read : tokenize "ab<" = .ok [⟨.identifier "ab", 0⟩, ⟨.punct .less, 2⟩] := by
    decide +kernel
  have blank : ∀ c ∈ "\u2003 ".toList, isBlank c = true :=
    List.all_eq_true.mp (show "\u2003 ".toList.all isBlank = true by decide +kernel)
  refine ⟨read, ?_, ?_⟩
  · rw [tokenize_across_blanks read blank (by decide)]
    decide +kernel
  · rw [tokenize_across_blanks read blank (by decide)]
    decide +kernel

end Semblance.Expr
