import Reprint.Proofs.Rendered
import Reprint.Proofs.Reprinting

set_option autoImplicit false

/-!
# Compact texts are minimal

The minimal form leaves out white space between tokens and nothing else.  The compact text of a
value has none there, whatever its strings and names contain, so it is its own minimal form; and
since the minimal form does not see how a text was printed before, every form of the value leads
back to its compact text.
-/

namespace Reprint.Layout

open Reprint.Text
open Reprint.Reader

/-! ## Nothing to leave out -/

/-- The minimal form keeps all of a text that has white space in literals only. -/
theorem printed_compact {s : Scanner} {text : List Char} (compact : s.Compact text) :
    minimalPass.printed "" .lf s text = text := by
  induction text generalizing s with
  | nil => rfl
  | cons c text ih =>
    obtain ⟨here, later⟩ := compact
    have put : minimalPass.put "" .lf s c = [c] := by
      cases literal : s.inLiteral c with
      | true => exact minimalPass_lexical.put_literal literal
      | false => exact minimalPass_put_visible s (here literal)
    have rest : minimalPass.printed "" .lf (s.next c) text = text := ih later
    rw [Pass.printed_cons, put]
    exact congrArg (c :: ·) rest

/-- Where all white space stands in literals, none stands after a backslash outside. -/
theorem blanksApart_of_compact {s : Scanner} {text : List Char} (compact : s.Compact text) :
    s.BlanksApart text :=
  compact.imp fun _ _ visible outside blank => by
    rw [visible outside] at blank
    cases blank

/-- A text of whole tokens with nothing between them: met outside literals, it leaves the scanner
there. -/
structure Tight (text : List Char) : Prop where
  compact : Scanner.start.Compact text
  after : Scanner.start.after text = .start

namespace Tight

theorem nil : Tight [] := ⟨trivial, rfl⟩

theorem append {t u : List Char} (ht : Tight t) (hu : Tight u) : Tight (t ++ u) where
  compact := by
    refine (Scanner.each_append .start t u).mpr ⟨ht.compact, ?_⟩
    rw [ht.after]
    exact hu.compact
  after := by rw [Scanner.after_append, ht.after, hu.after]

theorem char {c : Char} (quote : c ≠ '"') (backslash : c ≠ '\\') (visible : isBlank c = false) :
    Tight [c] where
  compact := ⟨fun _ => visible, trivial⟩
  after := Scanner.next_ordinary quote backslash

theorem of_ordinary {text : List Char} (h : ∀ c ∈ text, isOrdinary c = true) : Tight text := by
  induction text with
  | nil => exact nil
  | cons c text ih =>
    obtain ⟨quote, backslash, visible, _⟩ := isOrdinary_iff.mp (h c List.mem_cons_self)
    exact (char quote backslash visible).append (ih fun d hd => h d (List.mem_cons_of_mem c hd))

theorem mark {c : Char} (h : isMark c = true) : Tight [c] :=
  char (ne_quote_of_isMark h) (ne_backslash_of_isMark h) (isBlank_eq_false_of_isMark h)

/-- The white space of a literal is its own. -/
theorem quoted (cs : List Char) : Tight (Text.quoted cs) := by
  obtain ⟨within, after⟩ := Scanner.within_literal (quotes_escape cs).escaped
  refine ⟨within.imp fun s c inside outside => ?_, after⟩
  rw [inside] at outside
  cases outside

end Tight

/-! ## Compact texts -/

mutual

/-- The compact text of a value is put together from tokens without white space between them. -/
theorem tight_chars (v : Value) : Tight v.chars := by
  cases v with
  | null => exact .of_ordinary (List.all_eq_true.mp rfl)
  | bool b =>
    cases b with
    | true => exact .of_ordinary (List.all_eq_true.mp rfl)
    | false => exact .of_ordinary (List.all_eq_true.mp rfl)
  | number n => exact .of_ordinary fun c hc => isOrdinary_of_isNumeral (n.numeral_text c hc)
  | string s => exact .quoted s.toList
  | array vs =>
    have opened : Tight ['['] := .mark rfl
    have closed : Tight [']'] := .mark rfl
    rw [Value.chars_array]
    exact (opened.append (tight_elements vs)).append closed
  | object ms =>
    have opened : Tight ['{'] := .mark rfl
    have closed : Tight ['}'] := .mark rfl
    rw [Value.chars_object]
    exact (opened.append (tight_members ms)).append closed

theorem tight_elements (vs : List Value) : Tight (Value.elementChars vs) := by
  match vs with
  | [] => exact .nil
  | [v] =>
    rw [Value.elementChars, Value.moreElements, List.append_nil]
    exact tight_chars v
  | v :: w :: vs =>
    have comma : Tight [','] := .mark rfl
    rw [Value.elementChars_cons_cons]
    exact (tight_chars v).append (comma.append (tight_elements (w :: vs)))

theorem tight_members (ms : List (String × Value)) : Tight (Value.memberChars ms) := by
  have colon : Tight [':'] := .mark rfl
  match ms with
  | [] => exact .nil
  | [(k, v)] =>
    rw [Value.memberChars, Value.moreMembers, List.append_nil]
    exact (Tight.quoted k.toList).append (colon.append (tight_chars v))
  | (k, v) :: m :: ms =>
    have comma : Tight [','] := .mark rfl
    have item := (Tight.quoted k.toList).append (colon.append (tight_chars v))
    rw [Value.memberChars_cons_cons]
    exact item.append (comma.append (tight_members (m :: ms)))

end

theorem compact_text (v : Value) : Scanner.start.Compact v.text.toList := by
  rw [Value.text, String.toList_ofList]
  exact (tight_chars v).compact

/-- A value has a compact text, which is its own minimal form and what a printer of the minimal form
makes of the value; and the minimal form of every other form of the value is the compact text again,
if the indentation is white space. -/
theorem minify_rendered (v : Value) :
    render v = .ok v.text ∧ minify v.text = v.text ∧
      (∀ o : Options, o.mode = .minimal → renderWith o v = .ok v.text) ∧
      minify <$> renderPretty v = .ok v.text ∧
      ∀ o : Options, (∀ c ∈ o.indent.toList, isBlank c = true) →
        minify <$> renderWith o v = .ok v.text := by
  have minimal : minify v.text = v.text := by
    apply String.toList_injective
    rw [minify_toList]
    exact printed_compact (compact_text v)
  have apart := blanksApart_of_compact (compact_text v)
  have back : ∀ o : Options, (∀ c ∈ o.indent.toList, isBlank c = true) →
      minify (o.print v.text) = v.text := fun o blank =>
    calc minify (o.print v.text)
        = minify v.text := print_print apart o .minimal blank
      _ = v.text := minimal
  refine ⟨rfl, minimal, fun o mode => ?_, ?_, fun o blank => ?_⟩
  · have printed : o.print v.text = v.text := by
      rw [Options.print, mode]
      exact minimal
    exact congrArg Except.ok printed
  · exact congrArg Except.ok (back .recommended (List.all_eq_true.mp rfl))
  · exact congrArg Except.ok (back o blank)

/-- White space of all sorts, quotation marks and brackets in a name and a string; the indentation is
a tab and a space of another width. -/
theorem minify_rendered_spaced :
    let v := Value.object [("a \" \u2003", .array [.string "\\ [ ,\t\x7d", .null, .object []])]
    let least : Options := ⟨.minimal, "--", .lf⟩
    let o : Options := ⟨.pretty, "\t\u2003", .crlf⟩
    least.mode = .minimal ∧ renderWith least v = .ok v.text ∧
      (∀ c ∈ o.indent.toList, isBlank c = true) ∧ minify <$> renderWith o v = .ok v.text := by
  intro v least o
  obtain ⟨_, _, minimal, _, back⟩ := minify_rendered v
  have mode : least.mode = .minimal := rfl
  have blank : ∀ c ∈ o.indent.toList, isBlank c = true := List.all_eq_true.mp (by decide)
  exact ⟨mode, minimal least mode, blank, back o blank⟩

end Reprint.Layout
