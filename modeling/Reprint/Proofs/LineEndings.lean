import Mathlib
import Reprint.Proofs.InPlace

set_option autoImplicit false

/-!
# Line endings

Line feeds come into an output in two places only: the pretty form ends its lines with them, and the
run puts one behind all.  Of the line feeds of the input none is left, but for those inside
literals.  So if there are none of these, the two styles of line endings give outputs that differ in
nothing but the ends of their lines.
-/

namespace Reprint.Text

/-! ## Line feeds -/

/-- What becomes of a character when line feeds become carriage returns with line feeds. -/
def crlfOf (c : Char) : List Char := if c = '\n' then ['\r', '\n'] else [c]

/-- Every line feed becomes a carriage return with a line feed. -/
def lfToCrlf (text : String) : String := String.ofList (text.toList.flatMap crlfOf)

theorem toList_lfToCrlf (text : String) :
    (lfToCrlf text).toList = text.toList.flatMap crlfOf :=
  String.toList_ofList

theorem lfToCrlf_append (t u : String) : lfToCrlf (t ++ u) = lfToCrlf t ++ lfToCrlf u := by
  apply String.toList_injective
  simp [toList_lfToCrlf]

theorem flatMap_crlfOf_eq_self {text : List Char} (h : '\n' ∉ text) :
    text.flatMap crlfOf = text := by
  induction text with
  | nil => rfl
  | cons c text ih =>
    obtain ⟨first, rest⟩ := not_or.mp (List.mem_cons.not.mp h)
    rw [List.flatMap_cons, ih rest, crlfOf, if_neg (Ne.symm first), List.singleton_append]

theorem lfToCrlf_eq_self {text : String} (h : '\n' ∉ text.toList) : lfToCrlf text = text := by
  apply String.toList_injective
  rw [toList_lfToCrlf, flatMap_crlfOf_eq_self h]

namespace Scanner

/-- No line feed lies inside a literal. -/
def Unbroken : Scanner → List Char → Prop := Each fun s c => s.inLiteral c = true → c ≠ '\n'

instance (s : Scanner) (text : List Char) : Decidable (s.Unbroken text) :=
  inferInstanceAs (Decidable (Each _ s text))

end Scanner

end Reprint.Text

namespace Reprint.Reader

open Reprint.Text

/-- In a text that holds a value, every literal stands on one line. -/
theorem joins_unbroken :
    Joins fun text => Scanner.start.Unbroken text ∧ Scanner.start.after text = .start where
  nil := ⟨trivial, rfl⟩
  append := by
    rintro t u ⟨ht, after⟩ ⟨hu, after'⟩
    refine ⟨(Scanner.each_append _ t u).mpr ⟨ht, ?_⟩, ?_⟩
    · rw [after]
      exact hu
    · rw [Scanner.after_append, after, after']
  char := by
    intro c quote backslash
    have outside : Scanner.start.inLiteral c = false := Scanner.inLiteral_eq_false rfl quote
    refine ⟨⟨fun literal => ?_, trivial⟩, Scanner.next_ordinary quote backslash⟩
    cases outside.symm.trans literal
  literal := by
    intro cs content quotes
    refine ⟨(Scanner.each_iff _ _).mpr fun before c after split _ => ?_,
      (Scanner.within_literal quotes.escaped).2⟩
    exact quotes.ne_feed c (by simp [split])

end Reprint.Reader

namespace Reprint.Layout

open Reprint.Text

/-! ## What is written -/

/-- No line feed is written but at the end of a line. -/
def Write.Unbroken : Write → Prop
  | .char c => c ≠ '\n'
  | .text s => '\n' ∉ s.toList
  | .line _ => True

/-- The style of line endings shows at the ends of lines only. -/
theorem Write.Unbroken.chars_crlf {unit : String} (indent : '\n' ∉ unit.toList) {w : Write}
    (h : w.Unbroken) : w.chars unit .crlf = (w.chars unit .lf).flatMap crlfOf := by
  cases w with
  | char c =>
    have other : c ≠ '\n' := h
    simp [Write.chars, crlfOf, other]
  | text s => exact (flatMap_crlfOf_eq_self h).symm
  | line level =>
    have same : (indentation unit level).flatMap crlfOf = indentation unit level :=
      flatMap_crlfOf_eq_self fun hc => indent (mem_unit_of_mem_indentation hc)
    rw [Write.chars, Write.chars, lineBreak, lineBreak, List.flatMap_append, same]
    rfl

namespace Pass

variable {σ : Type} {p : Pass σ} {scan : σ → Scanner} {settled : σ → σ}

/-- What holds of all writes of single characters but line feeds, and of what the pass writes for
characters outside literals, holds of all that it writes for a text without line feeds in its
literals. -/
theorem Lexical.forall_writesOf {Q : Write → Prop} (lexical : p.Lexical scan settled)
    (char : ∀ c, c ≠ '\n' → Q (.char c))
    (visible : ∀ (s : σ) (c : Char), (scan s).inLiteral c = false → isBlank c = false →
      ∀ w ∈ p.writes s c, Q w)
    {s : σ} {text : List Char} (h : (scan s).Unbroken text) : ∀ w ∈ p.writesOf s text, Q w := by
  induction text generalizing s with
  | nil => exact List.forall_mem_nil _
  | cons c text ih =>
    obtain ⟨here, later⟩ := h
    rw [← lexical.scan_next] at later
    refine List.forall_mem_append.mpr ⟨?_, ih later⟩
    cases literal : (scan s).inLiteral c with
    | true =>
      rw [(lexical.literal s c literal).1]
      exact List.forall_mem_singleton.mpr (char c (here literal))
    | false =>
      cases blank : isBlank c with
      | true =>
        rw [(lexical.blank s c literal blank).1]
        exact List.forall_mem_nil _
      | false => exact visible s c literal blank

/-- The same writes are printed in both styles. -/
theorem printed_crlf {unit : String} (indent : '\n' ∉ unit.toList) {s : σ} {text : List Char}
    (h : ∀ w ∈ p.writesOf s text, w.Unbroken) :
    p.printed unit .crlf s text = (p.printed unit .lf s text).flatMap crlfOf := by
  rw [printed, printed, List.flatMap_assoc]
  exact List.flatMap_congr fun w hw => (h w hw).chars_crlf indent

end Pass

theorem ne_feed_of_isBlank_eq_false {c : Char} (h : isBlank c = false) : c ≠ '\n' := by
  rintro rfl
  exact absurd h (by decide)

/-- The pretty form writes line feeds at the ends of its lines only. -/
theorem prettyPass_unbroken {s : Indenting} {text : List Char} (h : s.scanner.Unbroken text) :
    ∀ w ∈ prettyPass.writesOf s text, w.Unbroken := by
  refine prettyPass_lexical.forall_writesOf (fun c other => other) (fun s c outside visible => ?_) h
  have other := ne_feed_of_isBlank_eq_false visible
  simp only [prettyPass, Indenting.writes, outside, visible, Bool.false_eq_true, if_false]
  split_ifs
  all_goals simp [Write.Unbroken, other]

/-- The minimal form has no line feed. -/
theorem notMem_minify {text : String} (h : Scanner.start.Unbroken text.toList) :
    '\n' ∉ (minify text).toList := by
  have chars : ∀ w ∈ minimalPass.writesOf .start text.toList, '\n' ∉ w.chars "" .lf := by
    refine minimalPass_lexical.forall_writesOf (fun c other => ?_) (fun s c _ visible => ?_) h
    · simpa [Write.chars] using Ne.symm other
    · have other := ne_feed_of_isBlank_eq_false visible
      simpa [minimalPass, visible, Write.chars] using Ne.symm other
  rw [minify_toList]
  intro feed
  obtain ⟨w, hw, hc⟩ := List.mem_flatMap.mp feed
  exact chars w hw hc

/-- The style of line endings shows in a printed text at the ends of lines only. -/
theorem print_crlf {o : Options} (lf : o.eol = .lf) (indent : '\n' ∉ o.indent.toList)
    {text : String} (h : Scanner.start.Unbroken text.toList) :
    ({ o with eol := .crlf } : Options).print text = lfToCrlf (o.print text) := by
  obtain ⟨mode, unit, eol⟩ := o
  subst lf
  cases mode with
  | minimal => exact (lfToCrlf_eq_self (notMem_minify h)).symm
  | pretty =>
    apply String.toList_injective
    rw [toList_lfToCrlf]
    show (prettify text unit .crlf).toList = (prettify text unit .lf).toList.flatMap crlfOf
    rw [prettify_toList, prettify_toList]
    exact Pass.printed_crlf indent (prettyPass_unbroken h)

/-- A line feed inside a literal is copied in both styles. -/
example : prettify "\"\n\"" "" .crlf = "\"\n\"" := by decide

end Reprint.Layout

namespace Reprint.Command

open Layout Text

/-! ## Two runs -/

section Runs

variable {s : Settings} {o : Options} {input : List UInt8} {fs : Files} {text : String}

/-- The options differ like the settings. -/
theorem options_crlf : ({ s with eol := .crlf } : Settings).options =
    s.options.map fun o => { o with eol := .crlf } := by
  unfold Settings.options
  split
  · rfl
  · unfold Options.withSpaces
    split <;> rfl

/-- What a run makes of its input ends its lines in the style that is asked for. -/
theorem product_crlf (options : s.options = some o) (lf : o.eol = .lf)
    (h : Scanner.start.Unbroken text.toList) :
    product { o with eol := .crlf } text = lfToCrlf (product o text) := by
  have indent : '\n' ∉ o.indent.toList := by
    intro feed
    rcases eq_of_mem_indent options feed with tab | space
    · exact absurd tab (by decide)
    · exact absurd space (by decide)
  have ending : lfToCrlf Eol.lf.text = Eol.crlf.text := by decide
  rw [product, product, lfToCrlf_append, ← print_crlf lf indent h, lf, ending]

/-- In the compact form this is one line. -/
theorem product_compact (lf : o.eol = .lf) (compact : o.mode = .minimal) :
    product o text = minify text ++ "\n" := by
  rw [product, Options.print, compact, lf]
  rfl

/-- A run that succeeds has given `out`: it has shown it, or the file for the output holds it. -/
def Settings.Gives (s : Settings) (out : String) (a : Outcome × Files) : Prop :=
  a.1.code = 0 ∧
    match s.output with
    | none => a.1.output = out
    | some path => a.1.output = "" ∧ a.2.content path = some out.toUTF8.toList

variable {a b : Outcome × Files}

theorem Settings.Ends.gives (h : s.Ends input fs a) (code : a.1.code = 0)
    (read : s.Reads input fs text) (options : s.options = some o) :
    s.Gives (product o text) a := by
  have leaves := h.leaves code read options
  unfold Settings.Leaves at leaves
  unfold Settings.Gives
  refine ⟨code, ?_⟩
  cases output : s.output with
  | none =>
    rw [output] at leaves
    exact leaves.1
  | some path =>
    rw [output] at leaves
    exact ⟨leaves.1, (Files.replaced_of_write leaves.2).content⟩

/-- What two runs show is related like what they give. -/
theorem Settings.Gives.output_crlf {out : String} (ha : s.Gives out a)
    (hb : s.Gives (lfToCrlf out) b) : b.1.output = lfToCrlf a.1.output := by
  obtain ⟨_, ha⟩ := ha
  obtain ⟨_, hb⟩ := hb
  cases output : s.output with
  | none =>
    rw [output] at ha hb
    rw [hb, ha]
  | some path =>
    rw [output] at ha hb
    rw [hb.1, ha.1]
    decide

/-- Two runs that differ in the style of line endings only end alike, and the one with carriage
returns gives what the other gives with each line feed converted, if no literal of the input has a
line feed.  The input need not be JSON; if it is, it has no such literal.  Behind any arguments
either style can be asked for.  The compact form has no line feed but the last. -/
theorem crlf_run_converts_lf_run :
    (∀ (text : String) (v : Value), parse text = .ok v → Scanner.start.Unbroken text.toList) ∧
    (∀ (flags : List String) (s : Settings), "--" ∉ flags →
      Settings.ofArguments (flags ++ ["--eol", "lf"]) = .ok s →
        s.eol = .lf ∧
          Settings.ofArguments (flags ++ ["--eol", "crlf"]) = .ok { s with eol := .crlf }) ∧
    ∀ (r r' : Request) (fs : Files) (s : Settings) (text : String),
      Settings.ofArguments r.arguments = .ok s → s.eol = .lf →
      Settings.ofArguments r'.arguments = .ok { s with eol := .crlf } → r'.input = r.input →
      s.Reads r.input fs text → Scanner.start.Unbroken text.toList →
        (run r' fs).1.code = (run r fs).1.code ∧
        (run r' fs).1.output = lfToCrlf (run r fs).1.output ∧
        (s.Accepts text → s.Fits → s.Writes fs →
          ∃ out, s.Gives out (run r fs) ∧ s.Gives (lfToCrlf out) (run r' fs) ∧
            (s.compact = true → ∃ line,
              '\n' ∉ line.toList ∧ out = line ++ "\n" ∧ lfToCrlf out = line ++ "\r\n")) := by
  refine ⟨fun text v value => (Reader.joins_unbroken.holds (parse_eq_ok_iff.mp value)).1,
    fun flags s unended => ofArguments_crlf unended, ?_⟩
  intro r r' fs s text chosen lf chosen' input read unbroken
  have ends := run_ends fs chosen
  have ends' := run_ends fs chosen'
  rw [input] at ends'
  -- Nothing that a run needs depends on the style of line endings.
  have alike : (run r' fs).1.code = 0 ↔ (run r fs).1.code = 0 :=
    ends'.code_eq_zero_iff.trans ends.code_eq_zero_iff.symm
  have panic : (run r' fs).1.code = 101 ↔ (run r fs).1.code = 101 :=
    ends'.code_eq_101_iff.trans ends.code_eq_101_iff.symm
  refine ⟨ends'.code_eq ends alike panic, ?_⟩
  by_cases code : (run r fs).1.code = 0
  · obtain ⟨_, _, _, fits, _⟩ := ends.code_eq_zero_iff.mp code
    obtain ⟨o, options⟩ := fits_iff.mp fits
    have options' :
        ({ s with eol := .crlf } : Settings).options = some { o with eol := .crlf } := by
      rw [options_crlf, options]
      rfl
    obtain ⟨eol, mode⟩ : o.eol = .lf ∧ o.mode = s.mode := by
      obtain ⟨unit, rfl, _⟩ := exists_unit options
      exact ⟨lf, rfl⟩
    have gives := ends.gives code read options
    have gives' : s.Gives (lfToCrlf (product o text)) (run r' fs) := by
      rw [← product_crlf options eol unbroken]
      exact ends'.gives (alike.mpr code) read options'
    refine ⟨gives.output_crlf gives', fun _ _ _ => ⟨product o text, gives, gives', ?_⟩⟩
    intro compact
    have minimal : o.mode = .minimal := mode.trans (if_pos compact)
    have line : product o text = minify text ++ "\n" := product_compact eol minimal
    have none := notMem_minify unbroken
    refine ⟨minify text, none, line, ?_⟩
    rw [line, lfToCrlf_append, lfToCrlf_eq_self none]
    rfl
  · obtain ⟨outputA, _⟩ := ends.failed code
    obtain ⟨outputB, _⟩ := ends'.failed (code ∘ alike.mp)
    refine ⟨?_, fun accepted fits writable => ?_⟩
    · rw [outputA, outputB]
      decide
    · exact absurd (ends.code_eq_zero_iff.mpr ⟨text, read, accepted, fits, writable⟩) code

/-- Line feeds, carriage returns and both together between the tokens of an object, which is printed
with tabs and then in the compact form. -/
theorem crlf_run_converts_lf_run_mixed :
    let text := "\x7b\"a\" :\r\n[1,\r2]\n\x7d\n"
    let v := Value.object [("a", .array [.number (.whole ⟨1, by decide, by decide⟩),
      .number (.whole ⟨2, by decide, by decide⟩)])]
    let request (form ending : String) : Request :=
      ⟨[form, "--eol", ending], text.toUTF8.toList, none⟩
    let fs : Files := ⟨[], [], []⟩
    parse text = .ok v ∧
      (run (request "-t" "lf") fs).1.output = "\x7b\n\t\"a\" : [ 1, 2 ]\n\x7d\n" ∧
      (run (request "-t" "crlf") fs).1.output = "\x7b\r\n\t\"a\" : [ 1, 2 ]\r\n\x7d\r\n" ∧
      ∃ line, '\n' ∉ line.toList ∧ (run (request "-c" "crlf") fs).1.output = line ++ "\r\n" := by
  intro text v request fs
  let tabs : Settings := { tabs := true }
  let compact : Settings := { compact := true }
  obtain ⟨unbroken, styles, runs⟩ := crlf_run_converts_lf_run
  have value : parse text = .ok v := by cbv
  have apart := unbroken text v value
  have shown : (run (request "-t" "lf") fs).1.output = "\x7b\n\t\"a\" : [ 1, 2 ]\n\x7d\n" := by
    cbv
  refine ⟨value, shown, ?_, ?_⟩
  · have chosen : Settings.ofArguments ["-t", "--eol", "lf"] = .ok tabs := by cbv
    obtain ⟨lf, chosen'⟩ := styles ["-t"] tabs (by decide) chosen
    have read : tabs.Reads text.toUTF8.toList fs text := by rw [Settings.Reads, if_pos rfl]
    obtain ⟨_, converted, _⟩ := runs (request "-t" "lf") (request "-t" "crlf") fs tabs text chosen
      lf chosen' rfl read apart
    rw [shown] at converted
    exact converted.trans (by decide)
  · have chosen : Settings.ofArguments ["-c", "--eol", "lf"] = .ok compact := by cbv
    obtain ⟨lf, chosen'⟩ := styles ["-c"] compact (by decide) chosen
    have read : compact.Reads text.toUTF8.toList fs text := by rw [Settings.Reads, if_pos rfl]
    obtain ⟨_, _, gives⟩ := runs (request "-c" "lf") (request "-c" "crlf") fs compact text chosen lf
      chosen' rfl read apart
    have accepted : compact.Accepts text := fun asked => absurd asked (by decide)
    have writes : compact.Writes fs := fun path named => by cases named
    have fits : compact.Fits := .inr (by decide)
    obtain ⟨out, _, given, oneLine⟩ := gives accepted fits writes
    obtain ⟨line, none, _, converted⟩ := oneLine rfl
    exact ⟨line, none, given.2.trans converted⟩

end Runs

end Reprint.Command
