import Semblance.Decimal.Reader
import Semblance.Expr.Token
import Semblance.Text.Bytes

/-!
# From source text to tokens

Each scanner takes one token from the front of a text and returns what follows it. `tokensFrom`
skips blanks between tokens and counts offsets in bytes.
-/

namespace Semblance.Expr

namespace Lexer

open Text

def isNameStart (c : Char) : Bool := isAlphabetic c || c == '_' || c == '$'

def isNameChar (c : Char) : Bool := isAlphanumeric c || c == '_' || c == '$'

/-- What a number has shown so far: a point, an exponent mark, and whether the mark came last. -/
structure NumberState where
  seenDot : Bool := false
  seenMark : Bool := false
  afterMark : Bool := false

namespace NumberState

/-- Go on with a character, if the number does. -/
def next (s : NumberState) (c : Char) : Option NumberState :=
  if isAsciiDigit c then some { s with afterMark := false }
  else if c = '.' then
    if s.seenDot || s.seenMark then none else some { s with seenDot := true, afterMark := false }
  else if c = 'e' ∨ c = 'E' then
    if s.seenMark then none else some { s with seenMark := true, afterMark := true }
  else if c = '+' ∨ c = '-' then
    if s.afterMark then some { s with afterMark := false } else none
  else none

end NumberState

/-- The characters of a number, and what follows them. -/
def scanNumber (s : NumberState) : List Char → List Char × List Char
  | [] => ([], [])
  | c :: rest =>
      match s.next c with
      | none => ([], c :: rest)
      | some s =>
          let (text, rest) := scanNumber s rest
          (c :: text, rest)

/-- The character that a backslash and `c` stand for. -/
def unescape (c : Char) : Char :=
  match c with
  | 'n' => '\n'
  | 't' => '\t'
  | 'r' => '\r'
  | '0' => '\x00'
  | _ => c

/-- The characters of a string up to its closing quote, and what follows the quote. -/
def scanString (quote : Char) : List Char → Option (List Char × List Char)
  | [] => none
  | c :: rest =>
      if c = quote then some ([], rest)
      else if c = '\\' then
        match rest with
        | [] => none
        | e :: rest => (scanString quote rest).map fun (text, rest) => (unescape e :: text, rest)
      else (scanString quote rest).map fun (text, rest) => (c :: text, rest)

/-- An operator or bracket, the longest that fits, and what follows it. -/
def scanPunct : List Char → Option (Punct × List Char)
  | '(' :: rest => some (.leftParen, rest)
  | ')' :: rest => some (.rightParen, rest)
  | '[' :: rest => some (.leftBracket, rest)
  | ']' :: rest => some (.rightBracket, rest)
  | '\x7b' :: rest => some (.leftBrace, rest)
  | '\x7d' :: rest => some (.rightBrace, rest)
  | ',' :: rest => some (.comma, rest)
  | '.' :: rest => some (.dot, rest)
  | ':' :: rest => some (.colon, rest)
  | '?' :: '?' :: rest => some (.coalesce, rest)
  | '?' :: rest => some (.question, rest)
  | '!' :: '=' :: '=' :: rest => some (.notSame, rest)
  | '!' :: '=' :: rest => some (.notEqual, rest)
  | '!' :: rest => some (.not, rest)
  | '=' :: '=' :: '=' :: rest => some (.same, rest)
  | '=' :: '=' :: rest => some (.equal, rest)
  | '<' :: '=' :: rest => some (.lessEqual, rest)
  | '<' :: rest => some (.less, rest)
  | '>' :: '=' :: rest => some (.greaterEqual, rest)
  | '>' :: rest => some (.greater, rest)
  | '+' :: rest => some (.plus, rest)
  | '-' :: rest => some (.minus, rest)
  | '*' :: rest => some (.star, rest)
  | '/' :: rest => some (.slash, rest)
  | '%' :: rest => some (.percent, rest)
  | '&' :: '&' :: rest => some (.and, rest)
  | '|' :: '|' :: rest => some (.or, rest)
  | _ => none

/-- The token at the front of a text that starts with `c`, and what follows it. -/
def scanToken (offset : Nat) (c : Char) (rest : List Char) :
    Except CompileError (TokenKind × List Char) :=
  if isAsciiDigit c then
    let (text, after) := scanNumber {} (c :: rest)
    match Decimal.readFloat text with
    | some value => .ok (.number value, after)
    | none => .error (.invalidNumber (String.ofList text))
  else if c = '"' ∨ c = '\'' then
    match scanString c rest with
    | some (text, after) => .ok (.string (String.ofList text), after)
    | none => .error (.unterminatedString offset)
  else if isNameStart c then
    .ok (.identifier (String.ofList (c :: rest.takeWhile isNameChar)), rest.dropWhile isNameChar)
  else
    match scanPunct (c :: rest) with
    | some (mark, after) => .ok (.punct mark, after)
    | none => .error (.unexpectedChar c offset)

theorem scanNumber_append (s : NumberState) (cs : List Char) :
    (scanNumber s cs).1 ++ (scanNumber s cs).2 = cs := by
  induction cs generalizing s with
  | nil => rfl
  | cons c rest ih =>
      simp only [scanNumber]
      split
      · rfl
      · simp [ih]

theorem scanNumber_after_le (s : NumberState) (cs : List Char) :
    (scanNumber s cs).2.length ≤ cs.length := by
  have split := congrArg List.length (scanNumber_append s cs)
  simp at split
  omega

theorem scanNumber_after_lt {c : Char} (digit : isAsciiDigit c = true) (rest : List Char) :
    (scanNumber {} (c :: rest)).2.length ≤ rest.length := by
  simp only [scanNumber, NumberState.next, digit, if_true]
  exact scanNumber_after_le _ rest

theorem scanString_after_lt {quote : Char} {cs text after : List Char}
    (scanned : scanString quote cs = some (text, after)) : after.length < cs.length := by
  fun_induction scanString quote cs generalizing text after with
  | case1 => simp at scanned
  | case2 =>
      simp only [Option.some.injEq, Prod.mk.injEq] at scanned
      simp [← scanned.2]
  | case3 => simp at scanned
  | case4 _ _ _ ih =>
      obtain ⟨⟨text', after'⟩, inner, same⟩ := Option.map_eq_some_iff.mp scanned
      have shorter := ih inner
      simp only [Prod.mk.injEq] at same
      simp only [List.length_cons, ← same.2]
      omega
  | case5 _ _ _ _ ih =>
      obtain ⟨⟨text', after'⟩, inner, same⟩ := Option.map_eq_some_iff.mp scanned
      have shorter := ih inner
      simp only [Prod.mk.injEq] at same
      simp only [List.length_cons, ← same.2]
      omega

theorem scanPunct_after_lt {cs : List Char} {mark : Punct} {after : List Char}
    (scanned : scanPunct cs = some (mark, after)) : after.length < cs.length := by
  unfold scanPunct at scanned
  split at scanned <;> simp at scanned <;> simp [← scanned.2] <;> omega

/-- A token takes at least one character. -/
theorem scanToken_after_le {offset : Nat} {c : Char} {rest after : List Char} {kind : TokenKind}
    (scanned : scanToken offset c rest = .ok (kind, after)) : after.length ≤ rest.length := by
  unfold scanToken at scanned
  split at scanned
  · rename_i digit
    have shorter := scanNumber_after_lt digit rest
    cases read : Decimal.readFloat (scanNumber {} (c :: rest)).1 with
    | none => simp [read] at scanned
    | some value =>
        simp [read] at scanned
        simpa [scanned.2] using shorter
  · split at scanned
    · cases read : scanString c rest with
      | none => simp [read] at scanned
      | some pair =>
          have shorter := Nat.le_of_lt (scanString_after_lt read)
          simp [read] at scanned
          simpa [scanned.2] using shorter
    · split at scanned
      · simp at scanned
        simpa [scanned.2] using (List.dropWhile_sublist isNameChar (l := rest)).length_le
      · cases read : scanPunct (c :: rest) with
        | none => simp [read] at scanned
        | some pair =>
            have shorter := scanPunct_after_lt read
            simp [read] at scanned
            simp [scanned.2] at shorter
            omega

/-- The tokens of a text whose first character has the given byte offset in the source. -/
def tokensFrom (offset : Nat) : List Char → Except CompileError (List Token)
  | [] => .ok []
  | c :: rest =>
      if isBlank c then tokensFrom (offset + c.utf8Size) rest
      else
        match _taken : scanToken offset c rest with
        | .error error => .error error
        | .ok (kind, after) =>
            match tokensFrom (offset + (byteLength (c :: rest) - byteLength after)) after with
            | .error error => .error error
            | .ok tokens => .ok (⟨kind, offset⟩ :: tokens)
termination_by cs => cs.length
decreasing_by
  · simp
  · have := scanToken_after_le _taken
    simp
    omega

end Lexer

/-- Split a source into tokens. -/
def tokenize (source : String) : Except CompileError (List Token) :=
  Lexer.tokensFrom 0 source.toList

end Semblance.Expr
