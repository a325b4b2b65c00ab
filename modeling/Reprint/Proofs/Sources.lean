import Reprint.Document
import Reprint.Proofs.Utf8

set_option autoImplicit false

/-!
# Values from byte sources

What is read from a source depends on its bytes and on how it ends, and not on the pieces in which
the bytes come.  A source that breaks gives nothing but the reason, whatever came before; of a
source that ends, the bytes are decoded as a whole, and a text is parsed as if it had been there
from the start.
-/

namespace Reprint

open Reader

namespace Reader

/-- After these reads the bytes are there, and the source has neither ended nor failed. -/
inductive Delivers : List Piece → List UInt8 → Prop where
  | nothing : Delivers [] []
  | chunk {bs bytes : List UInt8} {ps : List Piece} :
      bs ≠ [] → Delivers ps bytes → Delivers (.bytes bs :: ps) (bs ++ bytes)
  | interrupted {bytes : List UInt8} {ps : List Piece} :
      Delivers ps bytes → Delivers (.interrupted :: ps) bytes

/-- The source ends: there are no more reads, or the next one gives no bytes. -/
inductive Ended : List Piece → Prop where
  | exhausted : Ended []
  | empty (later : List Piece) : Ended (.bytes [] :: later)

/-- Every source delivers some bytes, and then it ends or breaks. -/
theorem ends_or_breaks (ps : List Piece) :
    ∃ before bytes after, Delivers before bytes ∧ ps = before ++ after ∧
      (Ended after ∨ ∃ reason later, after = .failed reason :: later) := by
  induction ps with
  | nil => exact ⟨[], [], [], .nothing, rfl, .inl .exhausted⟩
  | cons p ps ih =>
    obtain ⟨before, bytes, after, delivered, rfl, last⟩ := ih
    cases p with
    | bytes bs =>
      by_cases none : bs = []
      · subst none
        exact ⟨[], [], _, .nothing, rfl, .inl (.empty _)⟩
      · exact ⟨.bytes bs :: before, bs ++ bytes, after, .chunk none delivered, rfl, last⟩
    | interrupted => exact ⟨.interrupted :: before, bytes, after, .interrupted delivered, rfl, last⟩
    | failed reason => exact ⟨[], [], _, .nothing, rfl, .inr ⟨reason, _, rfl⟩⟩

theorem Delivers.gatherBytes_append {before : List Piece} {bytes : List UInt8}
    (h : Delivers before bytes) (after : List Piece) :
    gatherBytes (before ++ after) = (bytes ++ ·) <$> gatherBytes after := by
  induction h with
  | nothing =>
    rw [List.nil_append]
    cases gatherBytes after <;> rfl
  | @chunk bs bytes ps some _ ih =>
    obtain ⟨b, bs, rfl⟩ := List.exists_cons_of_ne_nil some
    rw [List.cons_append, gatherBytes, ih]
    cases gatherBytes after with
    | error fault => rfl
    | ok rest => exact congrArg Except.ok (List.append_assoc _ _ _).symm
  | interrupted _ ih =>
    rw [List.cons_append, gatherBytes, ih]

/-- At the end of a source its bytes are decoded. -/
theorem Delivers.readText_end {before after : List Piece} {bytes : List UInt8}
    (h : Delivers before bytes) (done : Ended after) :
    readText (before ++ after) = decode bytes := by
  have last : gatherBytes after = .ok [] := by cases done <;> rfl
  unfold readText
  rw [h.gatherBytes_append, last]
  exact congrArg decode (List.append_nil bytes)

theorem Delivers.readText_failed {before : List Piece} {bytes : List UInt8}
    (h : Delivers before bytes) (reason : String) (later : List Piece) :
    readText (before ++ .failed reason :: later) = .error (.failed reason) := by
  unfold readText
  rw [h.gatherBytes_append, gatherBytes]
  rfl

/-- Bytes that are not decoded are malformed, and there is one way to say so. -/
theorem decode_of_malformed {bytes : List UInt8} (h : Utf8.Malformed bytes) :
    decode bytes = .error .notUtf8 := by
  cases decoded : decode bytes with
  | ok text => exact absurd ⟨text, decode_eq_ok_iff.mp decoded⟩ (Utf8.malformed_iff.mp h)
  | error fault =>
    unfold decode at decoded
    split at decoded <;> cases decoded
    rfl

end Reader

theorem parseSource_of_readText {ps : List Piece} {text : String} (h : readText ps = .ok text) :
    parseSource ps = parse text := by
  unfold parseSource
  rw [h]
  rfl

theorem parseSource_of_fault {ps : List Piece} {fault : SourceFault}
    (h : readText ps = .error fault) : parseSource ps = .error (.source fault) := by
  unfold parseSource
  rw [h]
  rfl

/-- However the bytes of a source come: if they are the form of a text, the text is parsed; if they
are not, which is when they are malformed at some place, there is no text to be parsed; and if the
source breaks, that is said and nothing else. -/
theorem parseSource_any_pieces {before : List Piece} {bytes : List UInt8}
    (delivered : Delivers before bytes) :
    (∀ after, Ended after → ∀ s : String, bytes = s.toUTF8.toList →
      parseSource (before ++ after) = parse s) ∧
    ((¬ ∃ s : String, bytes = s.toUTF8.toList) ↔ Utf8.Malformed bytes) ∧
    (Utf8.Malformed bytes → ∀ after, Ended after →
      readText (before ++ after) = .error .notUtf8 ∧
      parseSource (before ++ after) = .error (.source .notUtf8)) ∧
    (∀ reason later,
      parseSource (before ++ .failed reason :: later) = .error (.source (.failed reason))) ∧
    (Error.source .notUtf8).message = "I/O error: stream did not contain valid UTF-8" ∧
    ∀ reason, (Error.source (.failed reason)).message = "I/O error: " ++ reason := by
  refine ⟨?_, Utf8.malformed_iff.symm, ?_, ?_, by decide, fun _ => rfl⟩
  · intro after done s form
    exact parseSource_of_readText ((delivered.readText_end done).trans (decode_eq_ok_iff.mpr form))
  · intro malformed after done
    have fault := (delivered.readText_end done).trans (decode_of_malformed malformed)
    exact ⟨fault, parseSource_of_fault fault⟩
  · intro reason later
    exact parseSource_of_fault (delivered.readText_failed reason later)

/-- A letter of two bytes that come in two pieces; half of a surrogate pair; and a document that is
complete when the source breaks. -/
theorem parseSource_any_pieces_cut :
    let whole : List Piece := [.bytes [0x22, 0xC3], .interrupted, .bytes [0xA9, 0x22]]
    let broken : List Piece := [.bytes [0x22, 0xED, 0xA0], .bytes [0x80]]
    Delivers whole "\"é\"".toUTF8.toList ∧
      parseSource (whole ++ [.bytes [], .failed "gone"]) = parse "\"é\"" ∧
      parseSource (whole ++ [.failed "gone"]) = .error (.source (.failed "gone")) ∧
      Delivers broken [0x22, 0xED, 0xA0, 0x80] ∧ Utf8.Malformed [0x22, 0xED, 0xA0, 0x80] ∧
      parseSource broken = .error (.source .notUtf8) := by
  intro whole broken
  have form : "\"é\"".toUTF8.toList = [0x22, 0xC3] ++ ([0xA9, 0x22] ++ []) := by
    rw [toUTF8_toList]
    decide
  have delivered : Delivers whole "\"é\"".toUTF8.toList := by
    rw [form]
    exact .chunk (by decide) (.interrupted (.chunk (by decide) .nothing))
  have delivered' : Delivers broken [0x22, 0xED, 0xA0, 0x80] :=
    .chunk (by decide) (.chunk (by decide) .nothing)
  have malformed : Utf8.Malformed [0x22, 0xED, 0xA0, 0x80] := by
    have continued : ∀ c ∈ [0xA0, 0x80], Utf8.Continues c :=
      List.forall_mem_cons.mpr ⟨by decide, List.forall_mem_singleton.mpr (by decide)⟩
    have led : Utf8.Led 0xED [0xA0, 0x80] := ⟨.two (by decide) (by decide), continued⟩
    have defect : Utf8.Defect (0xED :: ([0xA0, 0x80] ++ [])) :=
      .surrogate led (by decide) (by decide)
    refine ⟨"\"", _, ?_, defect⟩
    rw [toUTF8_toList]
    decide
  obtain ⟨parsed, _, _, failed, _⟩ := parseSource_any_pieces delivered
  obtain ⟨_, _, refused, _⟩ := parseSource_any_pieces delivered'
  exact ⟨delivered, parsed _ (.empty _) _ rfl, failed _ _, delivered', malformed,
    (refused malformed [] .exhausted).2⟩

end Reprint
