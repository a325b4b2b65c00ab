import Reprint.Layout.Printer

set_option autoImplicit false

/-!
# What the printers write

An output keeps a table of indentations so that none is put together twice.  The text that comes
out does not depend on the table: every write stands for some characters, and an output reads as
the characters of its writes one after the other.  A printed text is therefore said here without
any table, and the other modules look at it in this form only.
-/

namespace Reprint.Layout

/-- The indentation of a level: that many units. -/
def indentation (unit : String) (level : Nat) : List Char :=
  (List.replicate level unit.toList).flatten

@[simp] theorem indentation_one (unit : String) : indentation unit 1 = unit.toList := by
  simp [indentation]

theorem indentation_succ (unit : String) (level : Nat) :
    indentation unit (level + 1) = indentation unit level ++ unit.toList := by
  simp [indentation, List.replicate_succ']

/-- Indentation consists of the characters of its unit. -/
theorem mem_unit_of_mem_indentation {unit : String} {level : Nat} {c : Char}
    (h : c ∈ indentation unit level) : c ∈ unit.toList := by
  obtain ⟨chars, hchars, hc⟩ := List.mem_flatten.mp h
  rwa [List.eq_of_mem_replicate hchars] at hc

/-- A line ending and the indentation of the next line. -/
def lineBreak (unit : String) (eol : Eol) (level : Nat) : List Char :=
  eol.text.toList ++ indentation unit level

/-- The characters that a write stands for. -/
def Write.chars (unit : String) (eol : Eol) : Write → List Char
  | .char c => [c]
  | .text s => s.toList
  | .line level => lineBreak unit eol level

/-! ## The table of indentations -/

/-- The table holds the indentations of the first levels, those of the first two at least. -/
structure IndentTable (unit : String) (indents : Array String) : Prop where
  two : 2 ≤ indents.size
  entry : ∀ (i : Nat) (h : i < indents.size), (indents[i]).toList = indentation unit i

namespace IndentTable

variable {unit : String} {indents : Array String}

theorem new (unit : String) : IndentTable unit #["", unit] where
  two := Nat.le_refl 2
  entry i h := by
    match i, h with
    | 0, _ => rfl
    | 1, _ => simp

/-- The unit is at hand when an entry is put together. -/
theorem unit_entry (t : IndentTable unit indents) : indents[1]? = some unit := by
  have inside : 1 < indents.size := t.two
  have same : (indents[1]).toList = unit.toList := by rw [t.entry 1 inside, indentation_one]
  rw [Array.getElem?_eq_getElem inside, String.toList_injective same]

/-- So is the entry of the deepest level. -/
theorem last_entry (t : IndentTable unit indents) :
    ∃ last, indents.back? = some last ∧ last.toList = indentation unit (indents.size - 1) := by
  have inside : indents.size - 1 < indents.size := Nat.sub_one_lt_of_lt t.two
  refine ⟨indents[indents.size - 1], ?_, t.entry _ inside⟩
  rw [Array.back?_eq_getElem?, Array.getElem?_eq_getElem inside]

/-- One more entry is the last one and another unit. -/
theorem push (t : IndentTable unit indents) :
    IndentTable unit
      (indents.push (indents.back?.getD "" ++ indents[1]?.getD "")) where
  two := by simp only [Array.size_push]; exact Nat.le_succ_of_le t.two
  entry i h := by
    obtain ⟨last, back, spelled⟩ := t.last_entry
    rw [Array.getElem_push]
    split
    · next inside => exact t.entry i inside
    · next outside =>
      have two : 2 ≤ indents.size := t.two
      have deepest : i = indents.size - 1 + 1 := by
        simp only [Array.size_push] at h
        omega
      rw [back, t.unit_entry, Option.getD_some, Option.getD_some, String.toList_append, spelled,
        deepest, indentation_succ]

theorem deepen (t : IndentTable unit indents) (count : Nat) :
    IndentTable unit (Output.deepen indents count) := by
  induction count generalizing indents with
  | zero => exact t
  | succ count ih => exact ih t.push

end IndentTable

theorem size_deepen (indents : Array String) (count : Nat) :
    (Output.deepen indents count).size = indents.size + count := by
  induction count generalizing indents with
  | zero => rfl
  | succ count ih => rw [Output.deepen, ih, Array.size_push]; omega

/-- New entries stand behind the old ones. -/
theorem prefix_deepen (indents : Array String) (count : Nat) :
    indents.toList <+: (Output.deepen indents count).toList := by
  induction count generalizing indents with
  | zero => exact List.prefix_rfl
  | succ count ih =>
    have pushed (entry : String) : indents.toList <+: (indents.push entry).toList := by
      rw [Array.toList_push]
      exact List.prefix_append indents.toList [entry]
    exact (pushed _).trans (ih _)

namespace Output

variable {unit : String} {out : Output}

/-- The table grows to the level that is asked for, and not at all if that is there. -/
theorem size_reach (out : Output) (level : Nat) :
    (out.reach level).indents.size = max out.indents.size (level + 1) := by
  rw [reach, size_deepen]
  omega

/-- A line takes its indentation out of the table, where it is. -/
theorem newLine_text (out : Output) (level : Nat) :
    ∃ inside : level < (out.reach level).indents.size,
      (out.newLine level).text = out.text ++ out.eol.text ++ (out.reach level).indents[level] := by
  have inside : level < (out.reach level).indents.size := by
    rw [size_reach]
    omega
  refine ⟨inside, ?_⟩
  rw [newLine, Array.getElem?_eq_getElem inside, Option.getD_some]
  rfl

/-- A write takes nothing out of the table. -/
theorem prefix_write (out : Output) (w : Write) :
    out.indents.toList <+: (out.write w).indents.toList := by
  cases w with
  | char c => exact List.prefix_rfl
  | text s => exact List.prefix_rfl
  | line level => exact prefix_deepen _ _

/-- A write keeps the table and the line ending, and appends its characters. -/
theorem write_spec (t : IndentTable unit out.indents) (w : Write) :
    IndentTable unit (out.write w).indents ∧ (out.write w).eol = out.eol ∧
      (out.write w).text.toList = out.text.toList ++ w.chars unit out.eol := by
  cases w with
  | char c => exact ⟨t, rfl, by simp [write, push, Write.chars]⟩
  | text s => exact ⟨t, rfl, by simp [write, pushString, Write.chars]⟩
  | line level =>
    have table : IndentTable unit (out.reach level).indents := t.deepen _
    obtain ⟨inside, text⟩ := out.newLine_text level
    refine ⟨table, rfl, ?_⟩
    rw [write, text, String.toList_append, String.toList_append, table.entry level inside,
      List.append_assoc]
    rfl

/-- Writing one after the other keeps the table as well, and appends the characters of all
writes. -/
theorem writeAll_spec (t : IndentTable unit out.indents) (ws : List Write) :
    IndentTable unit (out.writeAll ws).indents ∧ (out.writeAll ws).eol = out.eol ∧
      (out.writeAll ws).text.toList =
        out.text.toList ++ ws.flatMap (Write.chars unit out.eol) := by
  induction ws generalizing out with
  | nil => exact ⟨t, rfl, by simp [writeAll]⟩
  | cons w ws ih =>
    obtain ⟨table, eol, text⟩ := write_spec t w
    obtain ⟨table', eol', text'⟩ := ih table
    rw [eol, text] at text'
    exact ⟨table', eol'.trans eol, by simpa [writeAll] using text'⟩

end Output

/-- In whatever order lines of whatever levels are written, and other writes between them, the table
is right all the time.  It has the first two levels at least, each entry is the unit as often as its
level says, and a write changes no entry but puts new ones behind, up to the level that is asked
for.  What is looked up is there: the indentation of a line, and the two entries that a new one is
made of.  So the text is made of what was written, with each indentation in full. -/
theorem indentations_of_writes (unit : String) (eol : Eol) (ws : List Write) :
    let out := (Output.new unit eol).writeAll ws
    2 ≤ out.indents.size ∧
      (∀ (i : Nat) (h : i < out.indents.size),
        (out.indents[i]).toList = (List.replicate i unit.toList).flatten) ∧
      (∀ w, out.indents.size ≤ (out.write w).indents.size ∧
        out.indents.toList <+: (out.write w).indents.toList) ∧
      (∀ level, (out.newLine level).indents.size = max out.indents.size (level + 1)) ∧
      (∀ level, ∃ inside : level < (out.reach level).indents.size,
        (out.newLine level).text = out.text ++ eol.text ++ (out.reach level).indents[level]) ∧
      (∀ count, ∃ last, (Output.deepen out.indents count).back? = some last ∧
        (Output.deepen out.indents count)[1]? = some unit) ∧
      out.text.toList = ws.flatMap (Write.chars unit eol) := by
  intro out
  have start : IndentTable unit (Output.new unit eol).indents := .new unit
  obtain ⟨table, same, text⟩ := Output.writeAll_spec start ws
  refine ⟨table.two, table.entry, fun w => ?_, out.size_reach, fun level => ?_, fun count => ?_,
    text⟩
  · have kept := out.prefix_write w
    have longer := kept.length_le
    rw [Array.length_toList, Array.length_toList] at longer
    exact ⟨longer, kept⟩
  · obtain ⟨inside, written⟩ := out.newLine_text level
    have ending : out.eol = eol := same
    rw [ending] at written
    exact ⟨inside, written⟩
  · have deeper := table.deepen count
    obtain ⟨last, back, _⟩ := deeper.last_entry
    exact ⟨last, back, deeper.unit_entry⟩

/-- Five levels at once, then none, then two: the table is as deep as the deepest line. -/
theorem indentations_of_writes_jumping :
    let ws : List Write := [.char '[', .line 5, .text "x", .line 0, .line 2]
    let out := (Output.new "ab" .crlf).writeAll ws
    out.indents.size = 6 ∧
      (∃ h : 5 < out.indents.size, (out.indents[5]).toList = "ababababab".toList) ∧
      out.text.toList = "[\r\nabababababx\r\n\r\nabab".toList := by
  intro ws out
  have six : out.indents.size = 6 := by decide
  have inside : 5 < out.indents.size := by rw [six]; decide
  obtain ⟨_, entry, _, _, _, _, text⟩ := indentations_of_writes "ab" .crlf ws
  exact ⟨six, ⟨inside, (entry 5 inside).trans (by decide)⟩, text.trans (by decide)⟩

/-! ## Printed texts -/

namespace Pass

variable {σ : Type} (p : Pass σ) (unit : String) (eol : Eol)

/-- What is printed for one character. -/
def put (s : σ) (c : Char) : List Char := (p.writes s c).flatMap (Write.chars unit eol)

/-- What is printed for a text that is met in the state `s`. -/
def printed (s : σ) (text : List Char) : List Char :=
  (p.writesOf s text).flatMap (Write.chars unit eol)

@[simp] theorem printed_nil (s : σ) : p.printed unit eol s [] = [] := rfl

@[simp] theorem printed_cons (s : σ) (c : Char) (text : List Char) :
    p.printed unit eol s (c :: text) =
      p.put unit eol s c ++ p.printed unit eol (p.next s c) text := by
  simp [printed, put, writesOf]

theorem printed_append (s : σ) (t u : List Char) :
    p.printed unit eol s (t ++ u) =
      p.printed unit eol s t ++ p.printed unit eol (p.after s t) u := by
  simp [printed, writesOf_append]

@[simp] theorem after_nil (s : σ) : p.after s [] = s := rfl

@[simp] theorem after_cons (s : σ) (c : Char) (text : List Char) :
    p.after s (c :: text) = p.after (p.next s c) text := rfl

/-- The text is printed as `out` when it is met in the state `s`, and leaves the state `s'`. -/
structure Prints (s : σ) (text out : List Char) (s' : σ) : Prop where
  printed : p.printed unit eol s text = out
  after : p.after s text = s'

namespace Prints

variable {p : Pass σ} {unit : String} {eol : Eol} {s s' s'' : σ} {text text' out out' : List Char}

theorem nil : p.Prints unit eol s [] [] s := ⟨rfl, rfl⟩

theorem char {c : Char} (put : p.put unit eol s c = out) (next : p.next s c = s') :
    p.Prints unit eol s [c] out s' where
  printed := by rw [printed_cons, put, printed_nil, List.append_nil]
  after := by rw [after_cons, next, after_nil]

theorem append (first : p.Prints unit eol s text out s')
    (later : p.Prints unit eol s' text' out' s'') :
    p.Prints unit eol s (text ++ text') (out ++ out') s'' where
  printed := by rw [printed_append, first.printed, first.after, later.printed]
  after := by rw [after_append, first.after, later.after]

end Prints

/-- A run of the pass gives the printed text. -/
theorem run_toList (text : String) :
    (p.run unit eol text).toList = p.printed unit eol p.start text.toList := by
  rw [run, feed_eq_writeAll, (Output.writeAll_spec (IndentTable.new unit) _).2.2]
  rfl

end Pass

theorem prettify_toList (text unit : String) (eol : Eol) :
    (prettify text unit eol).toList = prettyPass.printed unit eol .start text.toList :=
  Pass.run_toList ..

theorem minify_toList (text : String) :
    (minify text).toList = minimalPass.printed "" .lf .start text.toList :=
  Pass.run_toList ..

end Reprint.Layout
