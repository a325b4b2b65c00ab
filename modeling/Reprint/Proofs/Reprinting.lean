import Reprint.Proofs.Meaning

set_option autoImplicit false

/-!
# Printing again

Printing changes nothing but white space outside literals, and a printed text depends on nothing
but the tokens.  So a text that was printed before prints like the text it was made from, in
whatever forms it was printed, so long as the indentation was white space.

One kind of text is left out: white space that stands directly after a backslash outside literals
keeps the backslash from the character behind it, and dropping it may turn the opening quotation
mark of a literal into an escaped one.  No JSON text is of that kind.
-/

namespace Reprint.Layout

open Reprint.Text

/-- Texts with the same tokens are printed alike, whatever the options. -/
theorem print_eq_of_tokens_eq (o : Options) {t u : String} (same : tokens t = tokens u) :
    o.print t = o.print u := by
  apply String.toList_injective
  unfold Options.print
  split
  · rw [minify_toList, minify_toList]
    exact minimalPass_lexical.printed_eq_of_tokens_eq same
  · rw [prettify_toList, prettify_toList]
    exact prettyPass_lexical.printed_eq_of_tokens_eq same

section Apart

variable {text : String} (apart : Scanner.start.BlanksApart text.toList)

include apart

/-- A text has the same tokens before and after printing. -/
theorem tokens_print (o : Options) (blank : ∀ c ∈ o.indent.toList, isBlank c = true) :
    tokens (o.print text) = tokens text := by
  unfold tokens Options.print
  split
  · rw [minify_toList]
    have setsApart := minimalPass_setsApart "" .lf isBlank
    exact minimalPass_lexical.tokens_printed setsApart (fun _ h => h) apart []
  · rw [prettify_toList]
    have setsApart := prettyPass_setsApart (fun _ => isBlank_of_isGap) blank o.eol
    exact prettyPass_lexical.tokens_printed (s := .start) setsApart (fun _ h => h) apart []

/-- The last of two prints decides. -/
theorem print_print (o₁ o₂ : Options) (blank : ∀ c ∈ o₁.indent.toList, isBlank c = true) :
    o₂.print (o₁.print text) = o₂.print text :=
  print_eq_of_tokens_eq o₂ (tokens_print apart o₁ blank)

end Apart

/-- The minimal form has no white space outside literals. -/
theorem compact_printed {s : Scanner} {text : List Char} (apart : s.BlanksApart text) :
    s.Compact (minimalPass.printed "" .lf s text) := by
  induction text generalizing s with
  | nil => trivial
  | cons c text ih =>
    obtain ⟨here, later⟩ := apart
    have rest : (s.next c).Compact (minimalPass.printed "" .lf (s.next c) text) := ih later
    rw [Pass.printed_cons]
    cases literal : s.inLiteral c with
    | true =>
      rw [minimalPass_lexical.put_literal literal]
      exact ⟨fun outside => absurd (outside.symm.trans literal) (by decide), rest⟩
    | false =>
      cases kind : isBlank c with
      | true =>
        have same : s.next c = s := by
          rw [Scanner.next_blank kind, ← here literal kind]
        rw [minimalPass_lexical.put_blank literal kind, List.nil_append]
        show s.Compact (minimalPass.printed "" .lf (s.next c) text)
        rw [same] at rest ⊢
        exact rest
      | false =>
        rw [minimalPass_put_visible s kind]
        exact ⟨fun _ => kind, rest⟩

/-- What has been printed in any forms prints like the text at the beginning. -/
theorem print_foldl {text : String} (apart : Scanner.start.BlanksApart text.toList)
    {os : List Options} (blank : ∀ o ∈ os, ∀ c ∈ o.indent.toList, isBlank c = true)
    {now : String} (like : ∀ o : Options, o.print now = o.print text) (last : Options) :
    last.print (os.foldl (fun u o => o.print u) now) = last.print text := by
  induction os generalizing now with
  | nil => exact like last
  | cons o os ih =>
    have first := blank o List.mem_cons_self
    refine ih (fun o' h => blank o' (List.mem_cons_of_mem o h)) fun o' => ?_
    show o'.print (o.print now) = o'.print text
    rw [like o, print_print apart o o' first]

/-! ## The last print decides -/

/-- A text that holds a value has no white space after a backslash outside literals. -/
theorem blanksApart_of_parse {text : String} {v : Value} (h : parse text = .ok v) :
    Scanner.start.BlanksApart text.toList :=
  (parse_eq_ok_iff.mp h).wellquoted.blanksApart

/-- However often and in whatever forms a text is printed, the last print alone decides what comes
out, if the indentation was white space before. -/
theorem last_print_decides :
    (∀ (text : String) (v : Value), parse text = .ok v →
      Scanner.start.BlanksApart text.toList) ∧
    ∀ text : String, Scanner.start.BlanksApart text.toList →
      (∀ o₁ o₂ : Options, (∀ c ∈ o₁.indent.toList, isBlank c = true) →
        o₂.print (o₁.print text) = o₂.print text) ∧
      (∀ (os : List Options) (last : Options),
        (∀ o ∈ os, ∀ c ∈ o.indent.toList, isBlank c = true) →
          last.print (os.foldl (fun u o => o.print u) text) = last.print text) ∧
      minify (minify text) = minify text ∧
      ∀ (indent : String) (eol : Eol), (∀ c ∈ indent.toList, isBlank c = true) →
        prettify (prettify text indent eol) indent eol = prettify text indent eol ∧
          minify (prettify text indent eol) = minify text ∧
          prettify (minify text) indent eol = prettify text indent eol := by
  refine ⟨fun _ _ => blanksApart_of_parse, fun text apart => ⟨?_, ?_, ?_, ?_⟩⟩
  · intro o₁ o₂ blank
    exact print_print apart o₁ o₂ blank
  · intro os last blank
    exact print_foldl apart blank (fun _ => rfl) last
  · exact print_print apart .minimal .minimal (List.all_eq_true.mp rfl)
  · intro indent eol blank
    let pretty : Options := ⟨.pretty, indent, eol⟩
    have again := print_print apart pretty pretty blank
    have undone := print_print apart pretty .minimal blank
    have ignored := print_print apart .minimal pretty (List.all_eq_true.mp rfl)
    exact ⟨again, undone, ignored⟩

/-- A brace after a backslash and a literal that is not closed: the pretty form puts a line ending
after the backslash. -/
theorem last_print_decides_unclosed :
    let text := "\\\x7d [\"a "
    let o₁ : Options := ⟨.pretty, "\t", .crlf⟩
    let o₂ : Options := ⟨.minimal, "", .lf⟩
    Scanner.start.BlanksApart text.toList ∧ (∀ c ∈ o₁.indent.toList, isBlank c = true) ∧
      o₂.print (o₁.print text) = o₂.print text := by
  intro text o₁ o₂
  have apart : Scanner.start.BlanksApart text.toList := by decide
  have blank : ∀ c ∈ o₁.indent.toList, isBlank c = true := List.all_eq_true.mp (by decide)
  exact ⟨apart, blank, (last_print_decides.2 text apart).1 o₁ o₂ blank⟩

/-- The space after the backslash is lost, and then the literal is, and its own space with it. -/
example : minify "\\ \"a b" = "\\\"a b" ∧ minify "\\\"a b" = "\\\"ab" := by decide

/-! ## Tokens are kept -/

/-- Printing keeps the tokens, the minimal form has no other white space than that of its literals,
and two texts have the same minimal form when they have the same tokens. -/
theorem printing_keeps_tokens :
    (∀ text : String, Scanner.start.BlanksApart text.toList →
      ∀ o : Options, (∀ c ∈ o.indent.toList, isBlank c = true) →
        tokens (o.print text) = tokens text ∧
          (o.mode = .minimal → Scanner.start.Compact (o.print text).toList)) ∧
    ∀ t u : String, Scanner.start.BlanksApart t.toList → Scanner.start.BlanksApart u.toList →
      (minify t = minify u ↔ tokens t = tokens u) := by
  refine ⟨fun text apart o blank => ⟨tokens_print apart o blank, fun minimal => ?_⟩, ?_⟩
  · rw [Options.print, minimal]
    show Scanner.start.Compact (minify text).toList
    rw [minify_toList]
    exact compact_printed apart
  · intro t u ht hu
    have blank : ∀ c ∈ Options.minimal.indent.toList, isBlank c = true := List.all_eq_true.mp rfl
    constructor
    · intro same
      have kept : tokens (minify t) = tokens t := tokens_print ht .minimal blank
      have kept' : tokens (minify u) = tokens u := tokens_print hu .minimal blank
      rw [← kept, same, kept']
    · exact print_eq_of_tokens_eq .minimal

/-- A literal with white space and an escaped quotation mark, and an escaped quotation mark outside
literals. -/
theorem printing_keeps_tokens_escaped :
    let text := "[ \"a \\\" b\" ,\\\" ]"
    let o : Options := ⟨.pretty, " ", .lf⟩
    Scanner.start.BlanksApart text.toList ∧ (∀ c ∈ o.indent.toList, isBlank c = true) ∧
      tokens text = [.mark '[', .literal ['"', 'a', ' ', '\\', '"', ' ', 'b', '"'], .mark ',',
        .mark '\\', .mark '"', .mark ']'] ∧
      tokens (o.print text) = tokens text := by
  intro text o
  have apart : Scanner.start.BlanksApart text.toList := by decide
  have blank : ∀ c ∈ o.indent.toList, isBlank c = true := List.all_eq_true.mp (by decide)
  exact ⟨apart, blank, by decide, (printing_keeps_tokens.1 text apart o blank).1⟩

end Reprint.Layout
