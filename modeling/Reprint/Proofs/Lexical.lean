import Reprint.Proofs.Tokens
import Reprint.Proofs.Written

set_option autoImplicit false

/-!
# Printing by tokens

Both forms of a text copy its literals, drop its other white space and put new white space only
beside brackets, braces, commas and colons.  From this alone it follows that a printed text is
determined by the tokens of the text it was made from, and that it has these tokens itself.
-/

namespace Reprint.Layout

open Reprint.Text

/-- The characters before which white space may be put. -/
def takesBefore (c : Char) : Bool := c == '}' || c == ']' || c == ':'

/-- The characters after which white space may be put. -/
def takesAfter (c : Char) : Bool := c == '{' || c == '[' || c == ',' || c == ':'

/-- The characters beside which white space may be put. -/
def isMark (c : Char) : Bool := takesBefore c || takesAfter c

theorem ne_quote_of_isMark {c : Char} (h : isMark c = true) : c ≠ '"' := by
  rintro rfl
  exact absurd h (by decide)

theorem ne_backslash_of_isMark {c : Char} (h : isMark c = true) : c ≠ '\\' := by
  rintro rfl
  exact absurd h (by decide)

theorem isBlank_eq_false_of_isMark {c : Char} (h : isMark c = true) : isBlank c = false := by
  simp only [isMark, takesBefore, takesAfter, Bool.or_eq_true, beq_iff_eq] at h
  rcases h with ((rfl | rfl) | rfl) | (((rfl | rfl) | rfl) | rfl) <;> decide

/-- The characters that stand for themselves alone: they belong to no literal, and no white space is
put beside them. -/
def isOrdinary (c : Char) : Bool := c != '"' && c != '\\' && !isBlank c && !isMark c

theorem isOrdinary_iff {c : Char} :
    isOrdinary c = true ↔ c ≠ '"' ∧ c ≠ '\\' ∧ isBlank c = false ∧ isMark c = false := by
  simp [isOrdinary, and_assoc]

namespace Pass

variable {σ : Type}

/-- A pass that copies literals and drops other white space.  Neither changes the state but for
its scanner, which `scan` takes out of it and `settled` sets back; and the scanner decides nothing
more than what belongs to a literal. -/
structure Lexical (p : Pass σ) (scan : σ → Scanner) (settled : σ → σ) : Prop where
  scan_start : scan p.start = .start
  scan_next : ∀ (s : σ) (c : Char), scan (p.next s c) = (scan s).next c
  literal : ∀ (s : σ) (c : Char), (scan s).inLiteral c = true →
    p.writes s c = [.char c] ∧ settled (p.next s c) = settled s
  blank : ∀ (s : σ) (c : Char), (scan s).inLiteral c = false → isBlank c = true →
    p.writes s c = [] ∧ settled (p.next s c) = settled s
  visible : ∀ (s : σ) (c : Char), (scan s).inLiteral c = false → isBlank c = false →
    p.writes s c = p.writes (settled s) c ∧
      settled (p.next s c) = settled (p.next (settled s) c)

/-- Where the pass puts anything new, it is a row of `space` characters, and stands before or after
a character that may have white space there. -/
def SetsApart (p : Pass σ) (scan : σ → Scanner) (unit : String) (eol : Eol)
    (space : Char → Bool) : Prop :=
  ∀ (s : σ) (c : Char), (scan s).inLiteral c = false → isBlank c = false →
    ∃ before after : List Char, p.put unit eol s c = before ++ c :: after ∧
      (∀ b ∈ before, space b = true) ∧ (∀ b ∈ after, space b = true) ∧
      (takesBefore c = false → before = []) ∧ (takesAfter c = false → after = [])

/-- What a pass writes for tokens, from a settled state. -/
def writesOfTokens (p : Pass σ) (settled : σ → σ) (s : σ) : List Token → List Write
  | [] => []
  | .mark c :: ts => p.writes s c ++ p.writesOfTokens settled (settled (p.next s c)) ts
  | .literal text :: ts => text.map .char ++ p.writesOfTokens settled s ts

variable {p : Pass σ} {scan : σ → Scanner} {settled : σ → σ} {unit : String} {eol : Eol}

namespace Lexical

theorem scan_after (lexical : p.Lexical scan settled) (s : σ) (text : List Char) :
    scan (p.after s text) = (scan s).after text := by
  induction text generalizing s with
  | nil => rfl
  | cons c text ih => rw [after_cons, ih, lexical.scan_next, Scanner.after_cons]

/-- What is written for a text is what is written for its tokens. -/
theorem writesOf_eq (lexical : p.Lexical scan settled) (text : List Char) :
    ∀ (s : σ) (begun : List Char), ((scan s).inside = false → begun = []) →
      begun.map Write.char ++ p.writesOf s text =
        p.writesOfTokens settled (settled s) ((scan s).tokens begun text) := by
  induction text with
  | nil =>
    intro s begun outside
    cases inside : (scan s).inside with
    | true => simp [Scanner.tokens, inside, writesOf, writesOfTokens]
    | false => simp [Scanner.tokens, inside, writesOf, writesOfTokens, outside inside]
  | cons c text ih =>
    intro s begun outside
    -- What follows the first character, for each way to have passed a part of a literal there.
    have rest := ih (p.next s c)
    rw [lexical.scan_next] at rest
    have inside' : ((scan s).next c).inside = ((scan s).inside ^^ (scan s).isDelimiter c) := rfl
    cases inside : (scan s).inside with
    | true =>
      have literal := lexical.literal s c (Scanner.inLiteral_of_inside inside c)
      rw [literal.2] at rest
      cases delimiter : (scan s).isDelimiter c with
      | true =>
        simp [Scanner.tokens, inside, delimiter, writesOf, writesOfTokens, literal.1,
          ← rest [] fun _ => rfl]
      | false =>
        have still : ((scan s).next c).inside = true := by rw [inside', inside, delimiter]; rfl
        simp [Scanner.tokens, inside, delimiter, writesOf, literal.1,
          ← rest (begun ++ [c]) fun h => absurd (h.symm.trans still) (by decide)]
    | false =>
      obtain rfl := outside inside
      cases delimiter : (scan s).isDelimiter c with
      | true =>
        have literal := lexical.literal s c (by rw [Scanner.inLiteral, delimiter]; rfl)
        rw [literal.2] at rest
        have begins : ((scan s).next c).inside = true := by rw [inside', inside, delimiter]; rfl
        simp [Scanner.tokens, inside, delimiter, writesOf, literal.1,
          ← rest [c] fun h => absurd (h.symm.trans begins) (by decide)]
      | false =>
        have apart : (scan s).inLiteral c = false := by
          rw [Scanner.inLiteral, delimiter, inside]; rfl
        cases kind : isBlank c with
        | true =>
          have blank := lexical.blank s c apart kind
          rw [blank.2] at rest
          simp [Scanner.tokens, inside, delimiter, kind, writesOf, blank.1, ← rest [] fun _ => rfl]
        | false =>
          have visible := lexical.visible s c apart kind
          rw [visible.2] at rest
          simp [Scanner.tokens, inside, delimiter, kind, writesOf, writesOfTokens, ← visible.1,
            ← rest [] fun _ => rfl]

/-- Texts with the same tokens are printed alike. -/
theorem printed_eq_of_tokens_eq (lexical : p.Lexical scan settled) {t u : List Char}
    (same : Scanner.start.tokens [] t = Scanner.start.tokens [] u) :
    p.printed unit eol p.start t = p.printed unit eol p.start u := by
  have writes : p.writesOf p.start t = p.writesOf p.start u := by
    have ht := lexical.writesOf_eq t p.start [] fun _ => rfl
    have hu := lexical.writesOf_eq u p.start [] fun _ => rfl
    rw [lexical.scan_start] at ht hu
    rw [same, ← hu] at ht
    simpa using ht
  rw [printed, printed, writes]

theorem put_literal (lexical : p.Lexical scan settled) {s : σ} {c : Char}
    (h : (scan s).inLiteral c = true) : p.put unit eol s c = [c] := by
  rw [put, (lexical.literal s c h).1]
  rfl

theorem put_blank (lexical : p.Lexical scan settled) {s : σ} {c : Char}
    (outside : (scan s).inLiteral c = false) (blank : isBlank c = true) :
    p.put unit eol s c = [] := by
  rw [put, (lexical.blank s c outside blank).1]
  rfl

/-- Within literals a text is printed as it is. -/
theorem printed_within (lexical : p.Lexical scan settled) {s : σ} {text : List Char}
    (within : (scan s).Within text) :
    p.printed unit eol s text = text ∧ settled (p.after s text) = settled s := by
  induction text generalizing s with
  | nil => exact ⟨rfl, rfl⟩
  | cons c text ih =>
    have literal := lexical.literal s c within.1
    obtain ⟨printed, after⟩ := ih (s := p.next s c) (by
      rw [lexical.scan_next]
      exact within.2)
    refine ⟨?_, ?_⟩
    · rw [printed_cons, lexical.put_literal within.1, printed]
      rfl
    · rw [after_cons, after, literal.2]

/-- White space outside literals is not printed. -/
theorem printed_blanks (lexical : p.Lexical scan settled) {s : σ}
    (outside : (scan s).inside = false) {text : List Char} (h : ∀ c ∈ text, isBlank c = true) :
    p.printed unit eol s text = [] := by
  induction text generalizing s with
  | nil => rfl
  | cons c text ih =>
    have blank : isBlank c = true := h c List.mem_cons_self
    have apart := Scanner.inLiteral_eq_false outside (Scanner.ne_quote_of_isBlank blank)
    have later : (scan (p.next s c)).inside = false := by
      rw [lexical.scan_next, Scanner.next_blank blank, outside]
    have rest := ih later fun d hd => h d (List.mem_cons_of_mem c hd)
    rw [printed_cons, lexical.put_blank apart blank, rest, List.nil_append]

variable {space : Char → Bool}

/-- What is printed for a character has the token of that character, provided that no white space
is lost after a backslash. -/
theorem tokens_put (lexical : p.Lexical scan settled) (apart : p.SetsApart scan unit eol space)
    (blank : ∀ c, space c = true → isBlank c = true) {s : σ} {c : Char}
    (h : (scan s).inLiteral c = false → isBlank c = true → (scan s).backslashes = 0)
    (begun text : List Char) :
    (scan s).tokens begun (p.put unit eol s c ++ text) = (scan s).tokens begun (c :: text) := by
  cases literal : (scan s).inLiteral c with
  | true => rw [lexical.put_literal literal, List.singleton_append]
  | false =>
    have outside := Scanner.inside_of_inLiteral_eq_false literal
    cases kind : isBlank c with
    | true =>
      have same : (scan s).next c = scan s := by
        rw [Scanner.next_blank kind, ← h literal kind]
      rw [lexical.put_blank literal kind, Scanner.tokens_blank literal kind, same, List.nil_append,
        Scanner.tokens_outside outside]
    | false =>
      obtain ⟨before, after, put, spaceBefore, spaceAfter, noBefore, noAfter⟩ :=
        apart s c literal kind
      rw [put]
      cases mark : isMark c with
      | false =>
        obtain ⟨notBefore, notAfter⟩ := Bool.or_eq_false_iff.mp mark
        rw [noBefore notBefore, noAfter notAfter]
        rfl
      | true =>
        have quote := ne_quote_of_isMark mark
        have next : ∀ x : Scanner, x.inside = false → x.next c = .start := by
          intro x hx
          rw [Scanner.next_ordinary quote (ne_backslash_of_isMark mark), hx]
          rfl
        have blankBefore : ∀ b ∈ before, isBlank b = true := fun b hb => blank b (spaceBefore b hb)
        have blankAfter : ∀ b ∈ after, isBlank b = true := fun b hb => blank b (spaceAfter b hb)
        have there := Scanner.after_blanks outside blankBefore
        rw [List.append_assoc, Scanner.tokens_blanks outside blankBefore, List.cons_append,
          Scanner.tokens_mark (Scanner.inLiteral_eq_false there quote) kind, next _ there,
          Scanner.tokens_blanks rfl blankAfter, (Wellquoted.of_blanks blankAfter).after_start,
          Scanner.tokens_mark literal kind, next _ outside]

/-- A printed text has the tokens of the text it was made from. -/
theorem tokens_printed (lexical : p.Lexical scan settled) (apart : p.SetsApart scan unit eol space)
    (blank : ∀ c, space c = true → isBlank c = true) {s : σ} {text : List Char}
    (h : (scan s).BlanksApart text) (begun : List Char) :
    (scan s).tokens begun (p.printed unit eol s text) = (scan s).tokens begun text := by
  induction text generalizing s begun with
  | nil => rfl
  | cons c text ih =>
    rw [printed_cons, lexical.tokens_put apart blank h.1]
    apply Scanner.tokens_cons_congr
    intro begun'
    have rest := h.2
    rw [← lexical.scan_next] at rest ⊢
    exact ih rest begun'

end Lexical

end Pass

/-! ## The two forms -/

theorem minimalPass_lexical : minimalPass.Lexical id fun _ => .start where
  scan_start := rfl
  scan_next _ _ := rfl
  literal s c h := by
    simp only [id_eq] at h
    simp [minimalPass, h]
  blank s c outside blank := by
    simp only [id_eq] at outside
    simp [minimalPass, outside, blank]
  visible s c outside visible := by
    simp [minimalPass, visible]

/-- The minimal form keeps every character that is not white space. -/
theorem minimalPass_put_visible (s : Scanner) {c : Char} (visible : isBlank c = false) :
    minimalPass.put "" .lf s c = [c] := by
  simp [Pass.put, minimalPass, visible, Write.chars]

/-- The minimal form puts nothing new. -/
theorem minimalPass_setsApart (unit : String) (eol : Eol) (space : Char → Bool) :
    minimalPass.SetsApart id unit eol space := by
  intro s c outside visible
  refine ⟨[], [], ?_, by simp, by simp, fun _ => rfl, fun _ => rfl⟩
  simp [Pass.put, minimalPass, visible, Write.chars]

theorem prettyPass_lexical :
    prettyPass.Lexical Indenting.scanner fun s => { s with scanner := .start } where
  scan_start := rfl
  scan_next _ _ := rfl
  literal s c h := by
    simp [prettyPass, Indenting.writes, Indenting.next, Indenting.nextLevel,
      Indenting.nextInArray, h]
  blank s c outside blank := by
    have mark : isMark c = false := by
      cases mark : isMark c with
      | false => rfl
      | true => exact absurd blank (by rw [isBlank_eq_false_of_isMark mark]; decide)
    simp only [isMark, takesBefore, takesAfter, Bool.or_eq_false_iff, beq_eq_false_iff_ne,
      ne_eq] at mark
    simp [prettyPass, Indenting.writes, Indenting.next, Indenting.nextLevel,
      Indenting.nextInArray, outside, blank, mark]
  visible s c outside visible := by
    by_cases quote : c = '"'
    · -- An escaped quotation mark outside literals is copied, as is one that opens a literal.
      subst quote
      simp [prettyPass, Indenting.writes, Indenting.next, Indenting.nextLevel,
        Indenting.nextInArray, outside, visible]
    · have settled : Scanner.start.inLiteral c = false := Scanner.inLiteral_eq_false rfl quote
      simp [prettyPass, Indenting.writes, Indenting.next, Indenting.nextLevel,
        Indenting.nextInArray, outside, settled]

theorem isGap_of_mem_eol {eol : Eol} {c : Char} (h : c ∈ eol.text.toList) : isGap c = true := by
  cases eol with
  | lf => exact List.all_eq_true.mp rfl c h
  | crlf => exact List.all_eq_true.mp rfl c h

section SetsApart

variable {unit : String} {space : Char → Bool}

theorem space_of_mem_lineBreak (gap : ∀ c, isGap c = true → space c = true)
    (h : ∀ c ∈ unit.toList, space c = true) {eol : Eol} {level : Nat} :
    ∀ c ∈ lineBreak unit eol level, space c = true := by
  intro c hc
  rcases List.mem_append.mp hc with hc | hc
  · exact gap c (isGap_of_mem_eol hc)
  · exact h c (mem_unit_of_mem_indentation hc)

/-- The pretty form puts spaces, line endings and indentation. -/
theorem prettyPass_setsApart (gap : ∀ c, isGap c = true → space c = true)
    (h : ∀ c ∈ unit.toList, space c = true) (eol : Eol) :
    prettyPass.SetsApart Indenting.scanner unit eol space := by
  intro s c outside visible
  have line : ∀ level, ∀ b ∈ lineBreak unit eol level, space b = true := fun level =>
    space_of_mem_lineBreak gap h
  have one : ∀ b ∈ [' '], space b = true := by
    intro b hb
    rw [List.mem_singleton.mp hb]
    exact gap ' ' rfl
  have none : ∀ b ∈ ([] : List Char), space b = true := by simp
  simp only [Pass.put, prettyPass, Indenting.writes, outside, visible, Bool.false_eq_true, if_false]
  split
  · next mark =>
    subst mark
    exact ⟨[], lineBreak unit eol (s.level + 1), by simp [Write.chars], none, line _,
      fun _ => rfl, fun h => absurd h (by decide)⟩
  split
  · next mark =>
    subst mark
    exact ⟨lineBreak unit eol (s.level - 1), [], by simp [Write.chars], line _, none,
      fun h => absurd h (by decide), fun _ => rfl⟩
  split
  · next mark =>
    subst mark
    exact ⟨[], [' '], rfl, none, one, fun _ => rfl, fun h => absurd h (by decide)⟩
  split
  · next mark =>
    subst mark
    exact ⟨[' '], [], rfl, one, none, fun h => absurd h (by decide), fun _ => rfl⟩
  split
  · next mark =>
    subst mark
    cases s.inArray with
    | true => exact ⟨[], [' '], rfl, none, one, fun _ => rfl, fun h => absurd h (by decide)⟩
    | false =>
      exact ⟨[], lineBreak unit eol s.level, by simp [Write.chars], none, line _,
        fun _ => rfl, fun h => absurd h (by decide)⟩
  split
  · next mark =>
    subst mark
    exact ⟨[' '], [' '], rfl, one, one, fun h => absurd h (by decide),
      fun h => absurd h (by decide)⟩
  · exact ⟨[], [], by simp [Write.chars], none, none, fun _ => rfl, fun _ => rfl⟩

end SetsApart

end Reprint.Layout
