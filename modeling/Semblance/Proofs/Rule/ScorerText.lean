import Semblance.Proofs.Expr.Scanning
import Semblance.Proofs.Expr.Steps
import Semblance.Proofs.Rule.RangeText
import Semblance.Rule

/-!
# The two languages of scorers

A scorer is a range spec or an expression, and no text is both. A range spec has a semicolon and no
quotes, and outside of quotes no token takes a semicolon. So a scorer that can be read as an
expression is read as one, although range specs are tried first.
-/

namespace Semblance

/-! ## Semicolons in sources -/

namespace Expr.Lexer

open Text

variable {c : Char} {cs rest after : List Char} {kind : TokenKind}

theorem semicolon_mem_scanNumber (s : NumberState) (mem : ';' ∈ cs) :
    ';' ∈ (scanNumber s cs).2 := by
  induction cs generalizing s with
  | nil => cases mem
  | cons c rest ih =>
      rw [scanNumber]
      cases taken : s.next c with
      | none => exact mem
      | some s =>
          rcases List.mem_cons.mp mem with rfl | mem
          · cases taken
          · exact ih s mem

/-- Only a string can take a semicolon. -/
theorem Scans.semicolon_mem (scans : Scans c rest kind after) (unquoted : ¬ (c = '"' ∨ c = '\''))
    (mem : ';' ∈ c :: rest) : ';' ∈ after := by
  cases scans with
  | number _ scanned =>
      have left := semicolon_mem_scanNumber {} mem
      rw [scanned] at left
      exact left
  | string _ opens => exact absurd opens unquoted
  | name _ _ starts spans =>
      have other : ';' ≠ c := by
        rintro rfl
        exact absurd starts (by decide)
      rw [← spans.2]
      exact mem_dropWhile (by decide) (List.mem_of_ne_of_mem other mem)
  | @mark mark _ _ _ _ scanned =>
      obtain ⟨spelled, -⟩ := scanPunct_eq_some_iff.mp scanned
      rw [spelled, List.mem_append] at mem
      refine mem.resolve_left ?_
      cases mark <;> decide

/-- A text of tokens without quotes has no semicolon: what one token leaves, the next one cannot
take, and at the end nothing is left. -/
theorem semicolon_not_mem_of_tokensFrom {offset : Nat} {tokens : List Token}
    (lexed : tokensFrom offset cs = .ok tokens) (unquoted : ∀ c ∈ cs, ¬ (c = '"' ∨ c = '\'')) :
    ';' ∉ cs := by
  intro mem
  fun_induction tokensFrom offset cs generalizing tokens with
  | case1 => cases mem
  | case2 offset c rest blank ih =>
      obtain ⟨-, later⟩ := List.forall_mem_cons.mp unquoted
      have other : ';' ≠ c := by
        rintro rfl
        exact absurd blank (by decide)
      exact ih lexed later (List.mem_of_ne_of_mem other mem)
  | case3 => cases lexed
  | case4 => cases lexed
  | case5 offset c rest _ kind after scanned tokens later ih =>
      have scans := scanToken_eq_ok_iff.mp scanned
      obtain ⟨first, -⟩ := List.forall_mem_cons.mp unquoted
      exact ih later (fun d inAfter => unquoted d (scans.suffix.subset inAfter))
        (scans.semicolon_mem first mem)

end Expr.Lexer

/-! ## Range specs and expressions -/

theorem Expression.compile_eq_ok_iff {source : String} {params : List String} {e : Expression} :
    compile source params = .ok e ↔ checkExpressionLength source = .ok () ∧
      ∃ tokens, Expr.tokenize source = .ok tokens ∧
        ∃ tree, Expr.parse tokens = .ok tree ∧ e = ⟨source, params, tree⟩ := by
  unfold compile
  cases checkExpressionLength source with
  | error error => exact ⟨nofun, by rintro ⟨failed, -⟩; cases failed⟩
  | ok =>
      simp only [Expr.bind_eq_ok_iff, true_and]
      refine exists_congr fun tokens => and_congr_right fun _ => ?_
      refine exists_congr fun tree => and_congr_right fun _ => ?_
      exact ⟨fun same => (Except.ok.inj same).symm, fun same => congrArg Except.ok same.symm⟩

/-- The parameters are not looked at until the expression is evaluated. -/
theorem Expression.compile_params {source : String} {params : List String} {e : Expression}
    (compiled : compile source params = .ok e) (others : List String) :
    compile source others = .ok { e with params := others } := by
  obtain ⟨short, tokens, lexed, tree, parsed, rfl⟩ := compile_eq_ok_iff.mp compiled
  exact compile_eq_ok_iff.mpr ⟨short, tokens, lexed, tree, parsed, rfl⟩

namespace RangeSpec

variable {text : String} {spec : RangeSpec}

theorem semicolon_mem_of_parse? (parsed : parse? text = some spec) : ';' ∈ text.toList := by
  obtain ⟨name, min, reference, max, spells, -⟩ := parse?_eq_some_iff.mp parsed
  rw [spells.text]
  simp

theorem unquoted_of_parse? (parsed : parse? text = some spec) :
    ∀ c ∈ text.toList, ¬ (c = '"' ∨ c = '\'') := by
  intro c mem quote
  exact absurd (isSpecChar_of_parse? parsed mem) (ne_true_of_eq_false (isSpecChar_quote quote))

theorem not_compile_of_parse? (parsed : parse? text = some spec) (params : List String) :
    ∃ error, Expression.compile text params = .error error := by
  cases compiled : Expression.compile text params with
  | error error => exact ⟨error, rfl⟩
  | ok e =>
      obtain ⟨-, tokens, lexed, -⟩ := Expression.compile_eq_ok_iff.mp compiled
      exact absurd (semicolon_mem_of_parse? parsed)
        (Expr.Lexer.semicolon_not_mem_of_tokensFrom lexed (unquoted_of_parse? parsed))

end RangeSpec

namespace Scorer

/-- A text that is an expression compiles to the scorer of that expression. -/
theorem compile_of_expression {text : String} {params : List String} {e : Expression}
    (compiled : Expression.compile text params = .ok e) :
    compile (some text) = .ok (.expression { e with params := Scorer.params }) := by
  have noSpec : RangeSpec.parse? text = none := by
    rw [Option.eq_none_iff_forall_ne_some]
    intro spec parsed
    obtain ⟨error, fails⟩ := RangeSpec.not_compile_of_parse? parsed params
    cases compiled.symm.trans fails
  rw [compile, noSpec]
  simp only [Expression.compile_params compiled Scorer.params]
  rfl

/-- No text is both a range spec and an expression, whatever the parameters. So no expression is
taken for a range spec. -/
theorem languages_disjoint (text : String) :
    (∀ spec, RangeSpec.parse? text = some spec →
        ∀ params, ∃ error, Expression.compile text params = .error error) ∧
      ∀ params e, Expression.compile text params = .ok e →
        compile (some text) = .ok (.expression { e with params := Scorer.params }) :=
  ⟨fun _ parsed => RangeSpec.not_compile_of_parse? parsed, fun _ _ => compile_of_expression⟩

/-- A range spec that begins like an expression, and an expression that has all of a range spec in
a string. -/
theorem languages_disjoint_quoted :
    RangeSpec.parse? "l:-1;0.5;20" = some ⟨.linear, -1.0, 0.5, 20.0⟩ ∧
      (∃ error, Expression.compile "l:-1;0.5;20" ["l"] = .error error) ∧
      ∃ e, Expression.compile "'l:0;1;2' == l" ["l"] = .ok e ∧
        compile (some "'l:0;1;2' == l") = .ok (.expression { e with params := Scorer.params }) := by
  have digits (cs : List Char) (nonempty : cs ≠ []) (ascii : cs.all Regex.isDecimalDigit = true) :
      RangeSpec.IsDigits cs :=
    ⟨nonempty, List.all_eq_true.mp ascii⟩
  have parsed : RangeSpec.parse? "l:-1;0.5;20" = some ⟨.linear, -1.0, 0.5, 20.0⟩ := by
    refine RangeSpec.parse?_eq_some_iff.mpr ⟨['l'], ['-', '1'], ['0', '.', '5'], ['2', '0'],
      ⟨by decide +kernel, by decide, ?_, ?_, ?_, ?_⟩,
      by decide +kernel, by decide +kernel, by decide +kernel, by decide⟩
    · exact List.forall_mem_singleton.mpr
        ((RangeSpec.isWordChar_of_ascii (by decide)).trans (by decide))
    · exact .whole (.negative (digits _ (by decide) (by decide)))
    · have whole : RangeSpec.IsWhole ['0'] := .plain (digits _ (by decide) (by decide))
      exact .fraction whole (digits _ (by decide) (by decide))
    · exact .whole (.plain (digits _ (by decide) (by decide)))
  have compiles : (Expression.compile "'l:0;1;2' == l" ["l"]).isOk = true := by decide +kernel
  obtain ⟨e, compiled⟩ : ∃ e, Expression.compile "'l:0;1;2' == l" ["l"] = .ok e := by
    cases result : Expression.compile "'l:0;1;2' == l" ["l"] with
    | ok e => exact ⟨e, rfl⟩
    | error error =>
        rw [result] at compiles
        cases compiles
  exact ⟨parsed, (languages_disjoint _).1 _ parsed ["l"], e, compiled,
    (languages_disjoint _).2 ["l"] e compiled⟩

end Scorer

end Semblance
