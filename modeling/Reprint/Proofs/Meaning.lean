import Mathlib
import Reprint.Document
import Reprint.Proofs.Grammar
import Reprint.Proofs.Lexical

set_option autoImplicit false

/-!
# Printing keeps the meaning

Both forms of a text hold the value that the text holds.  The forms need not be told apart for
this: white space that a pass drops stands where the grammar allows any amount of it, and so does
the white space that a pass puts.  Where no mark stands, nothing is put; so no token is cut, and
none is joined to the next, since two tokens of a value never meet without a mark between them.
-/

namespace Reprint.Layout

open Reprint.Text
open Reprint.Reader

/-- No white space is put beside the characters of a number. -/
theorem isOrdinary_of_isNumeral {c : Char} (h : isNumeral c = true) : isOrdinary c = true := by
  have ne : ∀ d : Char, isNumeral d = false → c ≠ d := by
    rintro d hd rfl
    cases hd.symm.trans h
  have visible : isBlank c = false := by
    simp only [isNumeral, Bool.or_eq_true, beq_iff_eq] at h
    rcases h with ((((digit | rfl) | rfl) | rfl) | rfl) | rfl
    · obtain ⟨lower, upper⟩ := Char.isDigit_iff_toNat.mp digit
      have : '0'.toNat = 0x30 := rfl
      have : '9'.toNat = 0x39 := rfl
      exact isBlank_eq_false (by omega) (by omega)
    all_goals rfl
  refine isOrdinary_iff.mpr ⟨ne _ rfl, ne _ rfl, visible, ?_⟩
  simp [isMark, takesBefore, takesAfter, ne '}' rfl, ne ']' rfl, ne ':' rfl, ne '{' rfl, ne '[' rfl,
    ne ',' rfl]

namespace Pass

variable {σ α : Type} {p : Pass σ} {scan : σ → Scanner} {settled : σ → σ}
variable {unit : String} {eol : Eol}

/-- A text that is printed outside literals, with no backslash before it, is still one of `P`. -/
def Keeps (p : Pass σ) (scan : σ → Scanner) (unit : String) (eol : Eol)
    (P : α → List Char → Prop) : Prop :=
  ∀ (s : σ) (a : α) (text : List Char), scan s = .start → P a text → P a (p.printed unit eol s text)

namespace Lexical

theorem scan_after_start (lexical : p.Lexical scan settled) {s : σ} (rest : scan s = .start)
    {text : List Char} (h : Wellquoted text) : scan (p.after s text) = .start := by
  rw [lexical.scan_after, rest, h.after_start]

/-- A text without white space, marks, quotation marks and backslashes is printed as it is. -/
theorem printed_ordinary (lexical : p.Lexical scan settled)
    (apart : p.SetsApart scan unit eol isGap) {s : σ} (rest : scan s = .start) {text : List Char}
    (h : ∀ c ∈ text, isOrdinary c = true) : p.printed unit eol s text = text := by
  induction text generalizing s with
  | nil => rfl
  | cons c text ih =>
    obtain ⟨quote, backslash, visible, unmarked⟩ := isOrdinary_iff.mp (h c List.mem_cons_self)
    have outside : (scan s).inLiteral c = false := by
      rw [rest]
      exact Scanner.inLiteral_eq_false rfl quote
    obtain ⟨before, after, put, _, _, noBefore, noAfter⟩ := apart s c outside visible
    obtain ⟨notBefore, notAfter⟩ := Bool.or_eq_false_iff.mp unmarked
    rw [noBefore notBefore, noAfter notAfter] at put
    have next : scan (p.next s c) = .start := by
      rw [lexical.scan_next, Scanner.next_ordinary quote backslash, rest]
      rfl
    rw [printed_cons, put, ih next fun d hd => h d (List.mem_cons_of_mem c hd)]
    rfl

/-- A mark is printed between white space, and leaves the scanner where it is. -/
theorem put_mark (lexical : p.Lexical scan settled) (apart : p.SetsApart scan unit eol isGap)
    {s : σ} (rest : scan s = .start) {c : Char} (mark : isMark c = true) :
    ∃ before after, p.put unit eol s c = before ++ c :: after ∧ Gap before ∧ Gap after ∧
      (takesBefore c = false → before = []) ∧ (takesAfter c = false → after = []) ∧
      scan (p.next s c) = .start := by
  have outside : (scan s).inLiteral c = false := by
    rw [rest]
    exact Scanner.inLiteral_eq_false rfl (ne_quote_of_isMark mark)
  obtain ⟨before, after, put, hbefore, hafter, noBefore, noAfter⟩ :=
    apart s c outside (isBlank_eq_false_of_isMark mark)
  refine ⟨before, after, put, hbefore, hafter, noBefore, noAfter, ?_⟩
  rw [lexical.scan_next, Scanner.next_ordinary (ne_quote_of_isMark mark)
    (ne_backslash_of_isMark mark), rest]
  rfl

/-- Dropped white space does not show in what follows it. -/
theorem printed_gap (lexical : p.Lexical scan settled) {s : σ} (rest : scan s = .start)
    {gap : List Char} (h : Gap gap) (text : List Char) :
    p.printed unit eol s (gap ++ text) = p.printed unit eol (p.after s gap) text ∧
      scan (p.after s gap) = .start := by
  have outside : (scan s).inside = false := by rw [rest]; rfl
  refine ⟨?_, lexical.scan_after_start rest h.wellquoted⟩
  rw [printed_append, lexical.printed_blanks outside h.blank, List.nil_append]

/-- A literal is printed as it is. -/
theorem printed_literal (lexical : p.Lexical scan settled) {s : σ} (rest : scan s = .start)
    {content : List Char} (h : Escaped content) :
    p.printed unit eol s ('"' :: content ++ ['"']) = '"' :: content ++ ['"'] := by
  apply (lexical.printed_within _).1
  rw [rest]
  exact (Scanner.within_literal h).1

/-- Before a closing bracket there may be other white space than before, and after it there is
none. -/
theorem printed_close (lexical : p.Lexical scan settled) (apart : p.SetsApart scan unit eol isGap)
    {s : σ} (rest : scan s = .start) {gap : List Char} (h : Gap gap) {c : Char}
    (close : takesBefore c = true) (single : takesAfter c = false) :
    ∃ before, Gap before ∧ p.printed unit eol s (gap ++ [c]) = before ++ [c] := by
  obtain ⟨printed, rest'⟩ := lexical.printed_gap rest h [c]
  have mark : isMark c = true := by rw [isMark, close]; rfl
  obtain ⟨before, after, put, hbefore, _, _, noAfter, _⟩ := lexical.put_mark apart rest' mark
  refine ⟨before, hbefore, ?_⟩
  rw [printed, printed_cons, put, noAfter single, printed_nil, List.append_nil]

section Parts

variable (lexical : p.Lexical scan settled) (apart : p.SetsApart scan unit eol isGap)
variable {P : α → List Char → Prop} (keeps : p.Keeps scan unit eol P)
variable (wellquoted : ∀ a text, P a text → Wellquoted text)

include lexical keeps in
theorem keeps_led : p.Keeps scan unit eol (Led P) := by
  rintro s a _ rest ⟨gap, body, hgap, hbody, rfl⟩
  obtain ⟨printed, rest'⟩ := lexical.printed_gap rest hgap body
  rw [printed]
  exact .of (keeps _ a body rest' hbody)

include lexical apart keeps

theorem keeps_member : p.Keeps scan unit eol (Member P) := by
  intro s ka text rest h
  cases h with
  | @mk cs content gap item a quotes hgap hitem =>
    have behind := lexical.scan_after_start rest (.of_literal quotes.escaped)
    obtain ⟨printed, colon⟩ := lexical.printed_gap behind hgap (':' :: item)
    obtain ⟨before, after, put, hbefore, hafter, _, _, next⟩ :=
      lexical.put_mark apart colon (show isMark ':' = true from rfl)
    have hitem' := lexical.keeps_led keeps _ a item next hitem
    have := Member.mk quotes hbefore (hitem'.prepend hafter)
    rw [printed_append, lexical.printed_literal rest quotes.escaped, printed, printed_cons, put]
    simpa only [List.append_assoc, List.cons_append] using this

include wellquoted

theorem keeps_more {e : Enclosure} (close : takesBefore e.close = true)
    (single : takesAfter e.close = false) : p.Keeps scan unit eol (More e P) := by
  intro s as text rest h
  induction h generalizing s with
  | @close gap hgap =>
    obtain ⟨before, hbefore, printed⟩ := lexical.printed_close apart rest hgap close single
    rw [printed]
    exact .close hbefore
  | @next gap item more a as hgap hitem hmore ih =>
    obtain ⟨printed, rest'⟩ := lexical.printed_gap rest hgap (',' :: (item ++ more))
    obtain ⟨before, after, put, hbefore, hafter, _, _, next⟩ :=
      lexical.put_mark apart rest' (show isMark ',' = true from rfl)
    have hitem' := lexical.keeps_led keeps _ a item next hitem
    have hmore' := ih _ (lexical.scan_after_start next (hitem.wellquoted wellquoted))
    have := More.next hbefore (hitem'.prepend hafter) hmore'
    rw [printed, printed_cons, put, printed_append]
    simpa only [List.append_assoc, List.cons_append] using this

theorem keeps_items {e : Enclosure} (close : takesBefore e.close = true)
    (single : takesAfter e.close = false) : p.Keeps scan unit eol (Items e P) := by
  intro s as text rest h
  cases h with
  | @empty gap hgap =>
    obtain ⟨before, hbefore, printed⟩ := lexical.printed_close apart rest hgap close single
    rw [printed]
    exact .empty hbefore
  | @listed item more a as hitem hmore =>
    have next := lexical.scan_after_start rest (hitem.wellquoted wellquoted)
    have hitem' := lexical.keeps_led keeps s a item rest hitem
    have hmore' := lexical.keeps_more apart keeps wellquoted close single _ as more next hmore
    rw [printed_append]
    exact .listed hitem' hmore'

end Parts

/-- An opening bracket is printed first, whatever is put after it. -/
theorem printed_open (lexical : p.Lexical scan settled) (apart : p.SetsApart scan unit eol isGap)
    {s : σ} (rest : scan s = .start) (c : Char) (opens : takesAfter c = true)
    (first : takesBefore c = false) (text : List Char) :
    ∃ after, Gap after ∧ scan (p.next s c) = .start ∧
      p.printed unit eol s (c :: text) = c :: (after ++ p.printed unit eol (p.next s c) text) := by
  have mark : isMark c = true := by rw [isMark, opens, Bool.or_true]
  obtain ⟨before, after, put, _, hafter, noBefore, _, next⟩ := lexical.put_mark apart rest mark
  refine ⟨after, hafter, next, ?_⟩
  rw [printed_cons, put, noBefore first]
  rfl

/-- A text for a value is printed as a text for the same value. -/
theorem keeps_spelledWith (lexical : p.Lexical scan settled)
    (apart : p.SetsApart scan unit eol isGap) {texts : Option (Value → List Char → Prop)}
    (keeps : ∀ P, texts = some P →
      p.Keeps scan unit eol P ∧ ∀ v text, P v text → Wellquoted text) :
    p.Keeps scan unit eol (SpelledWith texts) := by
  intro s v text rest h
  have word : ∀ letters : List Char, letters.all isOrdinary = true →
      p.printed unit eol s letters = letters := by
    intro letters ordinary
    exact lexical.printed_ordinary apart rest (List.all_eq_true.mp ordinary)
  cases h with
  | null =>
    rw [word _ rfl]
    exact .null
  | boolTrue =>
    rw [word _ rfl]
    exact .boolTrue
  | boolFalse =>
    rw [word _ rfl]
    exact .boolFalse
  | number spells =>
    have ordinary := fun c hc => isOrdinary_of_isNumeral (spells.numeral c hc)
    rw [lexical.printed_ordinary apart rest ordinary]
    exact .number spells
  | string quotes =>
    rw [lexical.printed_literal rest quotes.escaped]
    exact .string quotes
  | @array P vs body texts hitems =>
    obtain ⟨keeps, wellquoted⟩ := keeps P texts
    obtain ⟨after, hafter, next, printed⟩ := lexical.printed_open apart rest '[' rfl rfl body
    rw [printed]
    exact .array texts
      ((lexical.keeps_items apart keeps wellquoted rfl rfl _ vs body next hitems).prepend hafter)
  | @object P ms body texts hitems =>
    obtain ⟨keeps, wellquoted⟩ := keeps P texts
    obtain ⟨after, hafter, next, printed⟩ := lexical.printed_open apart rest '{' rfl rfl body
    have keeps' := lexical.keeps_member apart keeps
    have wellquoted' : ∀ m text, Member P m text → Wellquoted text :=
      fun _ _ => Member.wellquoted wellquoted
    rw [printed]
    exact .object texts
      ((lexical.keeps_items apart keeps' wellquoted' rfl rfl _ ms body next hitems).prepend hafter)

theorem keeps_spelled (lexical : p.Lexical scan settled) (apart : p.SetsApart scan unit eol isGap)
    (depth : Nat) : p.Keeps scan unit eol (Spelled depth) := by
  induction depth with
  | zero => exact lexical.keeps_spelledWith apart fun P hP => nomatch hP
  | succ depth ih =>
    apply lexical.keeps_spelledWith apart
    rintro P hP
    cases hP
    exact ⟨ih, fun _ _ => Spelled.wellquoted⟩

/-- A text that holds a value and nothing else is printed as such a text. -/
theorem keeps_holds (lexical : p.Lexical scan settled) (apart : p.SetsApart scan unit eol isGap) :
    p.Keeps scan unit eol Holds := by
  rintro s v _ rest ⟨body, gap, hbody, hgap, rfl⟩
  have next := lexical.scan_after_start rest (hbody.wellquoted fun _ _ => Spelled.wellquoted)
  obtain ⟨printed, _⟩ := lexical.printed_gap next hgap []
  have hbody' := lexical.keeps_led (lexical.keeps_spelled apart maxDepth) s v body rest hbody
  refine ⟨_, [], hbody', gap_nil, ?_⟩
  rw [printed_append]
  rw [List.append_nil] at printed
  rw [printed, printed_nil]

end Lexical

end Pass

/-! ## The value of a printed text -/

theorem holds_minify {text : String} {v : Value} (h : Holds v text.toList) :
    Holds v (minify text).toList := by
  rw [minify_toList]
  exact minimalPass_lexical.keeps_holds (minimalPass_setsApart _ _ _) _ v _ rfl h

theorem holds_prettify {text indent : String} (gap : Gap indent.toList) (eol : Eol) {v : Value}
    (h : Holds v text.toList) : Holds v (prettify text indent eol).toList := by
  rw [prettify_toList]
  have apart := prettyPass_setsApart (fun _ hc => hc) gap eol
  exact prettyPass_lexical.keeps_holds apart _ v _ rfl h

theorem holds_print {o : Options} (gap : Gap o.indent.toList) {text : String} {v : Value}
    (h : Holds v text.toList) : Holds v (o.print text).toList := by
  unfold Options.print
  split
  · exact holds_minify h
  · exact holds_prettify gap o.eol h

end Reprint.Layout

namespace Reprint

open Reprint.Layout
open Reprint.Reader

/-- A text is parsed as a value when it holds that value and nothing else. -/
theorem parse_eq_ok_iff {text : String} {v : Value} :
    parse text = .ok v ↔ Holds v text.toList := by
  rw [← document_eq_ok_iff, parse, Value.parse]
  cases document text.toList with
  | error f => exact ⟨nofun, nofun⟩
  | ok w => exact ⟨fun h => congrArg _ (Except.ok.inj h), fun h => congrArg _ (Except.ok.inj h)⟩

/-- A text that is parsed as a value is printed as a text of the same value, whatever the options,
if the indentation is white space between tokens. -/
theorem parse_print {text : String} {v : Value} (h : parse text = .ok v) :
    (∀ o : Options, Gap o.indent.toList → parse (o.print text) = .ok v) ∧
      parse (minify text) = .ok v ∧
      ∀ indent : String, Gap indent.toList → parse (prettify text indent .lf) = .ok v := by
  rw [parse_eq_ok_iff] at h
  refine ⟨fun o gap => ?_, ?_, fun indent gap => ?_⟩
  · exact parse_eq_ok_iff.mpr (holds_print gap h)
  · exact parse_eq_ok_iff.mpr (holds_minify h)
  · exact parse_eq_ok_iff.mpr (holds_prettify gap .lf h)

/-- A literal with an escaped quotation mark, brackets inside a literal, and an array in an object:
the indentation is a tab and a carriage return. -/
theorem parse_print_escaped :
    let text := "\x7b \"a\\\"\" :[1 , \"\x7d\"], \"b\":\x7b\x7d\x7d"
    let v := Value.object
      [("a\"", .array [.number (.whole ⟨1, by decide, by decide⟩), .string "\x7d"]),
        ("b", .object [])]
    let o : Options := ⟨.pretty, "\t\r", .crlf⟩
    parse text = .ok v ∧ Gap o.indent.toList ∧ parse (o.print text) = .ok v := by
  intro text v o
  have parsed : parse text = .ok v := by cbv
  have gap : Gap o.indent.toList := List.all_eq_true.mp (by decide)
  exact ⟨parsed, gap, (parse_print parsed).1 o gap⟩

end Reprint
