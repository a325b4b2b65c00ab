import Reprint.Proofs.Scanning

set_option autoImplicit false

/-!
# Tokens

The tokens of a text are what is left of it when nobody cares how it is laid out: its literals,
each as a whole, and the other characters that are not white space, one by one.  White space
outside literals is lost, unless it stands directly after a backslash: there it may decide
whether a quotation mark further on opens a literal.
-/

namespace Reprint.Text

/-- A part of a text that is kept however the text is laid out. -/
inductive Token where
  /-- A character outside literals. -/
  | mark (c : Char)
  /-- A literal, from its opening quotation mark to the closing one, or to the end of the text. -/
  | literal (text : List Char)
  deriving DecidableEq, Repr

namespace Scanner

/-- The tokens of a text that the scanner stands before.  Of the literal that it stands in, if
any, `begun` has been passed already. -/
def tokens (s : Scanner) (begun : List Char) : List Char → List Token
  | [] => if s.inside then [.literal begun] else []
  | c :: text =>
    if s.inside then
      if s.isDelimiter c then .literal (begun ++ [c]) :: (s.next c).tokens [] text
      else (s.next c).tokens (begun ++ [c]) text
    else if s.isDelimiter c then (s.next c).tokens [c] text
    else if isBlank c then (s.next c).tokens [] text
    else .mark c :: (s.next c).tokens [] text

/-- Outside literals nothing of a literal has been passed. -/
theorem tokens_outside {s : Scanner} (outside : s.inside = false) (begun text : List Char) :
    s.tokens begun text = s.tokens [] text := by
  cases text with
  | nil => simp [tokens, outside]
  | cons c text => simp [tokens, outside]

/-- The tokens of a text depend on what follows its first character only by the tokens of that. -/
theorem tokens_cons_congr {s : Scanner} {c : Char} {t u : List Char}
    (h : ∀ begun, (s.next c).tokens begun t = (s.next c).tokens begun u) (begun : List Char) :
    s.tokens begun (c :: t) = s.tokens begun (c :: u) := by
  simp only [tokens, h]

/-- A character outside literals that is not white space is a token. -/
theorem tokens_mark {s : Scanner} {c : Char} (outside : s.inLiteral c = false)
    (visible : isBlank c = false) (begun text : List Char) :
    s.tokens begun (c :: text) = .mark c :: (s.next c).tokens [] text := by
  obtain ⟨delimiter, inside⟩ := Bool.or_eq_false_iff.mp outside
  simp [tokens, inside, delimiter, visible]

/-- White space outside literals is no token. -/
theorem tokens_blank {s : Scanner} {c : Char} (outside : s.inLiteral c = false)
    (blank : isBlank c = true) (begun text : List Char) :
    s.tokens begun (c :: text) = (s.next c).tokens [] text := by
  obtain ⟨delimiter, inside⟩ := Bool.or_eq_false_iff.mp outside
  simp [tokens, inside, delimiter, blank]

/-- A row of white space outside literals has no tokens. -/
theorem tokens_blanks {s : Scanner} (outside : s.inside = false) {blanks : List Char}
    (h : ∀ c ∈ blanks, isBlank c = true) (begun text : List Char) :
    s.tokens begun (blanks ++ text) = (s.after blanks).tokens [] text := by
  induction blanks generalizing s begun with
  | nil => exact tokens_outside outside begun text
  | cons c blanks ih =>
    have blank : isBlank c = true := h c List.mem_cons_self
    have apart : s.inLiteral c = false := inLiteral_eq_false outside (ne_quote_of_isBlank blank)
    have still : (s.next c).inside = false := by rw [next_blank blank, outside]
    have rest := ih still (fun d hd => h d (List.mem_cons_of_mem c hd)) []
    rw [List.cons_append, tokens_blank apart blank, rest, after_cons]

end Scanner

/-- The tokens of a text. -/
def tokens (text : String) : List Token := Scanner.start.tokens [] text.toList

end Reprint.Text
