import Mathlib
import Reprint.Proofs.Balance
import Reprint.Proofs.InPlace

set_option autoImplicit false

/-!
# Several documents in a row

A run prints its files one directly after the other, and the white space that stood between two
values is gone.  What comes out can still be read value by value, but for one case: a number that is
followed by a digit goes on.  So lists of documents with other values are printed as other texts,
unless a number is followed by a number without a sign.
-/

namespace Reprint

open Layout Reader Text

/-- A text that holds a value. -/
structure Document where
  text : String
  value : Value
  parsed : parse text = .ok value

namespace Document

/-- The second document would go on with the number at the end of the first. -/
def Fuses (d e : Document) : Prop :=
  d.value.kind = .number ∧ digitAhead (skipGap e.text.toList) = true

/-- No document goes on with a number at the end of the one before it. -/
def Apart (ds : List Document) : Prop := ds.IsChain fun d e => ¬ d.Fuses e

/-- The texts of documents, one directly after the other. -/
def joined (ds : List Document) : String := String.join (ds.map text)

theorem joined_cons (d : Document) (ds : List Document) :
    (joined (d :: ds)).toList = d.text.toList ++ (joined ds).toList := by
  rw [joined, List.map_cons, String.join_cons, String.toList_append]
  rfl

/-! ## Reading documents in a row -/

/-- A document begins with the first character of its value, behind white space. -/
theorem exists_first (d : Document) :
    ∃ gap c more, Gap gap ∧ isFirst c = true ∧ d.text.toList = gap ++ c :: more := by
  obtain ⟨body, gap', ⟨gap, inner, hgap, spelled, rfl⟩, _, split⟩ := parse_eq_ok_iff.mp d.parsed
  obtain ⟨c, more, rfl, first⟩ := spelled.first
  exact ⟨gap, c, more ++ gap', hgap, first, by simpa using split⟩

theorem digitAhead_first {gap : List Char} (hgap : Gap gap) {c : Char} (first : isFirst c = true)
    (more : List Char) : digitAhead (skipGap (gap ++ c :: more)) = c.isDigit := by
  rw [skipGap_append hgap, skipGap_cons (isGap_eq_false_of_isFirst first)]
  rfl

/-- A value begins with a digit or with one of seven other characters. -/
theorem of_isFirst {q : Char → Bool} (others : ['n', 't', 'f', '"', '-', '[', '{'].all q = true)
    {c : Char} (digit : c.isDigit = true → q c = true) (first : isFirst c = true) : q c = true := by
  have listed : ∀ d ∈ ['n', 't', 'f', '"', '-', '[', '{'], c = d → q c = true := by
    intro d hd same
    rw [same]
    exact List.all_eq_true.mp others d hd
  simp only [List.forall_mem_cons] at listed
  obtain ⟨n, t, f, quote, minus, array, object, _⟩ := listed
  simp only [isFirst, Bool.or_eq_true, beq_iff_eq] at first
  rcases first with (((((same | same) | same) | same) | (same | isDigit)) | same) | same
  · exact n same
  · exact t same
  · exact f same
  · exact quote same
  · exact minus same
  · exact digit isDigit
  · exact array same
  · exact object same

/-- Of the characters that values begin with only digits go on with a number. -/
theorem goesOn_of_isFirst {c : Char} (first : isFirst c = true) (noDigit : c.isDigit = false) :
    goesOn c = false := by
  have allowed : (c.isDigit || !goesOn c) = true :=
    of_isFirst (q := fun c => c.isDigit || !goesOn c) rfl (fun digit => by rw [digit]; rfl) first
  simpa [noDigit] using allowed

/-- No value begins with white space, and none is put before its first character. -/
theorem visible_of_isFirst {c : Char} (first : isFirst c = true) :
    isBlank c = false ∧ takesBefore c = false := by
  have visible : (!isBlank c && !takesBefore c) = true := by
    refine of_isFirst (q := fun c => !isBlank c && !takesBefore c) (by decide) (fun digit => ?_)
      first
    have ordinary := isOrdinary_iff.mp (isOrdinary_of_isNumeral (isNumeral_of_isDigit digit))
    simp [ordinary.2.2.1, (Bool.or_eq_false_iff.mp ordinary.2.2.2).1]
  simpa using visible

/-- What follows a document does not go on with the number at its end. -/
theorem ends_joined {d : Document} {ds : List Document} (apart : Apart (d :: ds))
    (number : d.value.kind = .number) {gap : List Char} (hgap : Gap gap) :
    Ends ((joined ds).toList ++ gap) := by
  cases ds with
  | nil =>
    have ends := ends_gap hgap ends_nil
    rw [List.append_nil] at ends
    exact ends
  | cons e es =>
    obtain ⟨gap', c, more, hgap', first, split⟩ := e.exists_first
    have notFused := (List.isChain_cons_cons.mp apart).1
    have noDigit : c.isDigit = false := by
      cases digit : c.isDigit with
      | false => rfl
      | true =>
        refine absurd ⟨number, ?_⟩ notFused
        rw [split, digitAhead_first hgap' first, digit]
    rw [joined_cons, split, List.append_assoc, List.append_assoc]
    exact ends_gap hgap' (goesOn_of_isFirst first noDigit)

/-- The first value of documents in a row, with any white space around them, is read first. -/
theorem reads_joined {d : Document} {ds : List Document} (apart : Apart (d :: ds))
    {before after : List Char} (hbefore : Gap before) (hafter : Gap after) :
    ∃ gap, Gap gap ∧
      Reader.value maxDepth (before ++ (joined (d :: ds)).toList ++ after) =
        .ok (d.value, gap ++ (joined ds).toList ++ after) := by
  obtain ⟨body, gap, led, hgap, split⟩ := parse_eq_ok_iff.mp d.parsed
  refine ⟨gap, hgap, ?_⟩
  have ends : d.value.kind = .number → Ends (gap ++ ((joined ds).toList ++ after)) :=
    fun number => ends_gap hgap (ends_joined apart number hafter)
  have read := value_reads (led.prepend hbefore) ends
  rw [joined_cons, split]
  simpa only [List.append_assoc] using read

/-- White space alone holds no value. -/
theorem value_gap {gap : List Char} (h : Gap gap) (depth : Nat) (a : Value × List Char) :
    Reader.value depth gap ≠ .ok a := by
  have skip : skipGap gap = [] := by
    have skipped := skipGap_append h []
    rwa [List.append_nil] at skipped
  intro read
  cases depth with
  | zero | succ =>
    simp only [Reader.value, valueWith, skip] at read
    cases read

/-- Documents in a row have their values from their text, with any white space around them. -/
theorem values_eq_of_joined {ds es : List Document} (apart : Apart ds) (apart' : Apart es)
    {before before' after after' : List Char} (hbefore : Gap before) (hbefore' : Gap before')
    (hafter : Gap after) (hafter' : Gap after')
    (same : before ++ (joined ds).toList ++ after = before' ++ (joined es).toList ++ after') :
    ds.map value = es.map value := by
  induction ds generalizing es before before' with
  | nil =>
    cases es with
    | nil => rfl
    | cons e es =>
      obtain ⟨gap, _, read⟩ := reads_joined apart' hbefore' hafter'
      rw [← same] at read
      have blank : Gap (before ++ (joined []).toList ++ after) :=
        (hbefore.append gap_nil).append hafter
      exact absurd read (value_gap blank _ _)
  | cons d ds ih =>
    obtain ⟨gap, hgap, read⟩ := reads_joined apart hbefore hafter
    cases es with
    | nil =>
      rw [same] at read
      have blank : Gap (before' ++ (joined []).toList ++ after') :=
        (hbefore'.append gap_nil).append hafter'
      exact absurd read (value_gap blank _ _)
    | cons e es =>
      obtain ⟨gap', hgap', read'⟩ := reads_joined apart' hbefore' hafter'
      rw [same, read'] at read
      obtain ⟨first, rest⟩ := Prod.mk.inj (Except.ok.inj read)
      have apartLater : Apart es := apart'.tail
      have later := ih apart.tail apartLater hgap hgap' rest.symm
      rw [List.map_cons, List.map_cons, first, later]

end Document

/-! ## Printing documents in a row -/

namespace Layout.Pass.Lexical

variable {σ : Type} {p : Pass σ} {scan : σ → Scanner} {settled : σ → σ}
variable {unit : String} {eol : Eol}

/-- The first character of a value is printed first. -/
theorem printed_first (lexical : p.Lexical scan settled) (apart : p.SetsApart scan unit eol isGap)
    {gap : List Char} (hgap : Gap gap) {c : Char} (first : isFirst c = true) (more : List Char) :
    ∃ later, p.printed unit eol p.start (gap ++ c :: more) = c :: later := by
  obtain ⟨printed, rest⟩ : p.printed unit eol p.start (gap ++ c :: more) =
      p.printed unit eol (p.after p.start gap) (c :: more) ∧ scan (p.after p.start gap) = .start :=
    lexical.printed_gap lexical.scan_start hgap (c :: more)
  rw [printed, printed_cons]
  by_cases quote : c = '"'
  · have literal : (scan (p.after p.start gap)).inLiteral c = true := by
      rw [rest, quote]
      rfl
    exact ⟨_, by rw [lexical.put_literal literal]; rfl⟩
  · have outside : (scan (p.after p.start gap)).inLiteral c = false := by
      rw [rest]
      exact Scanner.inLiteral_eq_false rfl quote
    obtain ⟨visible, notBefore⟩ := Document.visible_of_isFirst first
    obtain ⟨before, after, put, _, _, noBefore, _⟩ := apart _ c outside visible
    rw [put, noBefore notBefore]
    exact ⟨_, rfl⟩

end Layout.Pass.Lexical

namespace Document

variable {o : Options} (indent : Gap o.indent.toList)

/-- A document as the options want it printed. -/
def printed (d : Document) : Document :=
  ⟨o.print d.text, d.value, (parse_print d.parsed).1 o indent⟩

/-- Printing leaves the first character of a document. -/
theorem digitAhead_printed (d : Document) :
    digitAhead (skipGap (d.printed indent).text.toList) = digitAhead (skipGap d.text.toList) := by
  obtain ⟨gap, c, more, hgap, first, split⟩ := d.exists_first
  have printed : ∃ later, (o.print d.text).toList = c :: later := by
    unfold Options.print
    split
    · rw [minify_toList, split]
      exact minimalPass_lexical.printed_first (minimalPass_setsApart _ _ _) hgap first more
    · rw [prettify_toList, split]
      exact prettyPass_lexical.printed_first (prettyPass_setsApart (fun _ h => h) indent _)
        hgap first more
  obtain ⟨later, printed⟩ := printed
  have begins := digitAhead_first gap_nil first later
  rw [split, digitAhead_first hgap first, ← begins]
  exact congrArg (fun text => digitAhead (skipGap text)) printed

theorem apart_printed {ds : List Document} (apart : Apart ds) :
    Apart (ds.map (printed indent)) := by
  refine (List.isChain_map _).mpr (apart.imp fun d e notFused fused => notFused ⟨fused.1, ?_⟩)
  rw [← digitAhead_printed indent e]
  exact fused.2

/-- Printed in a row, documents are printed one by one. -/
theorem print_joined (ds : List Document) :
    o.print (joined ds) = joined (ds.map (printed indent)) := by
  have balanced : ∀ t ∈ ds.map text, Balanced t.toList := by
    intro t ht
    obtain ⟨d, _, rfl⟩ := List.mem_map.mp ht
    exact balanced_of_parse d.parsed
  rw [joined, print_join balanced, joined, List.map_map, List.map_map]
  rfl

include indent in
/-- Documents with other values are printed as another text, if no number is followed by a
digit. -/
theorem values_eq_of_printed {ds es : List Document} (apart : Apart ds) (apart' : Apart es)
    {ending : String} (white : Gap ending.toList)
    (same : o.print (joined ds) ++ ending = o.print (joined es) ++ ending) :
    ds.map value = es.map value := by
  rw [print_joined indent, print_joined indent] at same
  have rows := congrArg String.toList same
  rw [String.toList_append, String.toList_append] at rows
  have values := values_eq_of_joined (apart_printed indent apart) (apart_printed indent apart')
    gap_nil gap_nil white white rows
  rw [List.map_map, List.map_map] at values
  exact values

end Document

/-! ## Runs -/

namespace Command

open Document

/-- The settings are those of the request but for the files.  These hold the documents, in order,
and the output can be written. -/
def Settings.RunsOn (s : Settings) (r : Request) (fs : Files) (ds : List Document) : Prop :=
  ∃ files : List String, files ≠ [] ∧
    Settings.ofArguments r.arguments = .ok { s with files := files } ∧
    List.Forall₂ (fun path (d : Document) => fs.read path = .ok d.text.toUTF8.toList) files ds ∧
    s.Writes fs

/-- What a run leaves where the settings want the output. -/
def Settings.left (s : Settings) (a : Outcome × Files) : Option (List UInt8) :=
  match s.output with
  | none => some a.1.output.toUTF8.toList
  | some path => a.2.content path

section Runs

variable {s : Settings} {r r' : Request} {fs fs' : Files} {ds es : List Document}

/-- A run on documents succeeds, and leaves them printed as one text. -/
theorem left_of_runsOn (unchecked : s.validate = false) {o : Options} (options : s.options = some o)
    (h : s.RunsOn r fs ds) :
    (run r fs).1.code = 0 ∧
      s.left (run r fs) = some (product o (joined ds)).toUTF8.toList := by
  obtain ⟨files, named, chosen, held, writes⟩ := h
  have ends := run_ends fs chosen
  have read : ({ s with files := files } : Settings).Reads r.input fs (joined ds) := by
    rw [Settings.Reads, if_neg named]
    exact ⟨ds.map text, List.forall₂_map_right_iff.mpr held, rfl⟩
  have accepted : ({ s with files := files } : Settings).Accepts (joined ds) := by
    intro checked
    cases unchecked.symm.trans checked
  have fits : s.Fits := fits_iff.mpr ⟨o, options⟩
  have code := ends.code_eq_zero_iff.mpr ⟨joined ds, read, accepted, fits, writes⟩
  have leaves := ends.leaves code read options
  refine ⟨code, ?_⟩
  unfold Settings.Leaves at leaves
  unfold Settings.left
  cases output : s.output with
  | none =>
    simp only [output] at leaves
    rw [leaves.1]
  | some path =>
    simp only [output] at leaves
    exact (Files.replaced_of_write leaves.2).content

/-- Two runs with the same settings on documents with other values leave other outputs, unless one
of them is given a number that is followed by a digit, or no text can hold the indentation. -/
theorem runs_tell_apart (unchecked : s.validate = false) (fits : s.Fits) (h : s.RunsOn r fs ds)
    (h' : s.RunsOn r' fs' es) (apart : Apart ds) (apart' : Apart es)
    (differ : ds.map Document.value ≠ es.map Document.value) :
    (run r fs).1.code = 0 ∧ (run r' fs').1.code = 0 ∧
      s.left (run r fs) ≠ s.left (run r' fs') := by
  obtain ⟨o, options⟩ := fits_iff.mp fits
  obtain ⟨code, left⟩ := left_of_runsOn unchecked options h
  obtain ⟨code', left'⟩ := left_of_runsOn unchecked options h'
  refine ⟨code, code', fun same => differ ?_⟩
  rw [left, left'] at same
  have products : product o (joined ds) = product o (joined es) := by
    have first :
        Reader.decode (product o (joined ds)).toUTF8.toList = .ok (product o (joined ds)) :=
      Reader.decode_eq_ok_iff.mpr rfl
    rw [Reader.decode_eq_ok_iff.mpr (Option.some.inj same)] at first
    exact (Except.ok.inj first).symm
  have white : Gap o.eol.text.toList := fun c hc => isGap_of_mem_eol hc
  exact values_eq_of_printed (gap_indent options) apart apart' white products

end Runs

/-- A negative number may follow a number, and a string may. -/
theorem runs_tell_apart_signed :
    let fs : Files := ⟨[], [(["a"], .file "1\n".toUTF8.toList), (["b"], .file "-2".toUTF8.toList),
      (["c"], .file "\"2\"".toUTF8.toList)], []⟩
    let r : Request := ⟨["a", "b", "-c"], [], none⟩
    let r' : Request := ⟨["a", "c", "-c"], [], none⟩
    let s : Settings := { compact := true }
    (run r fs).1.output = "1-2\n" ∧ (run r' fs).1.output = "1\"2\"\n" ∧
      s.left (run r fs) ≠ s.left (run r' fs) := by
  intro fs r r' s
  let one : Document := ⟨"1\n", .number (.whole ⟨1, by decide, by decide⟩), by cbv⟩
  let minusTwo : Document := ⟨"-2", .number (.whole ⟨-2, by decide, by decide⟩), by cbv⟩
  let two : Document := ⟨"\"2\"", .string "2", by cbv⟩
  have writes : s.Writes fs := by
    intro path output
    cases output
  have runs : s.RunsOn r fs [one, minusTwo] :=
    ⟨["a", "b"], by simp, by cbv, .cons (by cbv) (.cons (by cbv) .nil), writes⟩
  have runs' : s.RunsOn r' fs [one, two] :=
    ⟨["a", "c"], by simp, by cbv, .cons (by cbv) (.cons (by cbv) .nil), writes⟩
  have apart : Apart [one, minusTwo] :=
    .cons_cons (fun fused => absurd fused.2 (by decide)) (.singleton minusTwo)
  have apart' : Apart [one, two] :=
    .cons_cons (fun fused => absurd fused.2 (by decide)) (.singleton two)
  have differ : [one, minusTwo].map Document.value ≠ [one, two].map Document.value := by
    simp [minusTwo, two]
  have fits : s.Fits := .inr (by decide)
  exact ⟨by cbv, by cbv, (runs_tell_apart rfl fits runs runs' apart apart' differ).2.2⟩

/-- A number that is followed by a digit is printed like another number. -/
theorem runs_fuse_numbers :
    let fs : Files := ⟨[], [(["a"], .file "1\n".toUTF8.toList), (["b"], .file "2\n".toUTF8.toList),
      (["c"], .file "12\n".toUTF8.toList)], []⟩
    ∃ one two twelve : Value,
      parse "1\n" = .ok one ∧ parse "2\n" = .ok two ∧ parse "12\n" = .ok twelve ∧
        [one, two] ≠ [twelve] ∧
        (run ⟨["a", "b"], [], none⟩ fs).1.output = (run ⟨["c"], [], none⟩ fs).1.output ∧
        (run ⟨["c"], [], none⟩ fs).1.output = "12\n" := by
  intro fs
  refine ⟨.number (.whole ⟨1, by decide, by decide⟩), .number (.whole ⟨2, by decide, by decide⟩),
    .number (.whole ⟨12, by decide, by decide⟩), by cbv, by cbv, by cbv, by simp, by cbv, by cbv⟩

end Command

end Reprint
