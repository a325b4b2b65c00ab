import Mathlib
import Reprint.Command.Run
import Reprint.Proofs.FileSystem

set_option autoImplicit false

/-!
# Whole runs

A run succeeds when all its input can be read as text, the text passes the check if one is asked
for, a text can hold the unit of indentation, and the output can be written.  Then the printed text,
with a line ending after it, is the only thing that the run leaves behind.  A run that does not
succeed leaves nothing behind: whatever can stop it comes before the one write.
-/

namespace Reprint.Command

open Layout

/-! ## What comes of a piece of work -/

namespace Work

variable {α β : Type}

theorem result_pure (a : α) : (pure a : Work α).result = .ok a := rfl

theorem result_bind (w : Work α) (next : α → Work β) :
    (w >>= next).result = w.result >>= fun a => (next a).result := by
  obtain ⟨log, _ | a⟩ := w <;> rfl

theorem result_bind_eq_ok_iff {w : Work α} {next : α → Work β} {b : β} :
    (w >>= next).result = .ok b ↔ ∃ a, w.result = .ok a ∧ (next a).result = .ok b := by
  rw [result_bind, bind_eq_ok_iff]

theorem result_need_eq_ok_iff {f : Failure} {x : Option α} {a : α} :
    (need f x).result = .ok a ↔ x = some a := by
  cases x with
  | none => simp [need, fail]
  | some b => simp [need, done]

instance : LawfulMonad Work := LawfulMonad.mk' Work
  (fun w => by
    change w.andThen (fun a => done a) = w
    unfold andThen
    obtain ⟨log, _ | a⟩ := w <;> simp [done])
  (fun a next => by
    change (done a).andThen next = next a
    simp [andThen, done])
  (fun w next next' => by
    change (w.andThen next).andThen next' = w.andThen fun a => (next a).andThen next'
    unfold andThen
    obtain ⟨log, _ | a⟩ := w
    · rfl
    · cases h : (next a).result <;> simp [h])

/-- Work on every part succeeds when the work on each part does. -/
theorem result_mapM_eq_ok_iff {f : α → Work β} {as : List α} {bs : List β} :
    (as.mapM f).result = .ok bs ↔ List.Forall₂ (fun a b => (f a).result = .ok b) as bs := by
  induction as generalizing bs with
  | nil => simp [List.mapM_nil, result_pure, eq_comm]
  | cons a as ih =>
    rw [List.mapM_cons, result_bind_eq_ok_iff]
    constructor
    · rintro ⟨b, first, rest⟩
      obtain ⟨bs', others, same⟩ := result_bind_eq_ok_iff.mp rest
      cases same
      exact .cons first (ih.mp others)
    · rintro (_ | ⟨first, others⟩)
      exact ⟨_, first, result_bind_eq_ok_iff.mpr ⟨_, ih.mpr others, rfl⟩⟩

/-- Where the work fails, it fails with an error and not with a panic. -/
def Ordinary (w : Work α) : Prop := ∀ f, w.result = .error f → f.code = 1

theorem ordinary_of_ok {w : Work α} {a : α} (h : w.result = .ok a) : w.Ordinary := by
  intro f failed
  cases h.symm.trans failed

theorem ordinary_fail {f : Failure} (h : f.code = 1) : (fail f : Work α).Ordinary := by
  rintro _ ⟨⟩
  exact h

theorem Ordinary.bind {w : Work α} {next : α → Work β} (first : w.Ordinary)
    (second : ∀ a, (next a).Ordinary) : (w >>= next).Ordinary := by
  intro f failed
  rw [result_bind] at failed
  cases result : w.result with
  | error f' =>
    rw [result] at failed
    cases failed
    exact first f result
  | ok a =>
    rw [result] at failed
    exact second a f failed

theorem Ordinary.mapM {f : α → Work β} (h : ∀ a, (f a).Ordinary) (as : List α) :
    (as.mapM f).Ordinary := by
  induction as with
  | nil =>
    rw [List.mapM_nil]
    exact ordinary_of_ok rfl
  | cons a as ih =>
    rw [List.mapM_cons]
    exact (h a).bind fun _ => ih.bind fun _ => ordinary_of_ok rfl

end Work

/-! ## The input -/

section Input

variable {s : Settings} {input : List UInt8} {fs : Files} {text : String}

theorem fileText_eq_ok_iff {path : String} {content : Except PathFault (List UInt8)} :
    (fileText path content).result = .ok text ↔ content = .ok text.toUTF8.toList := by
  unfold fileText
  cases content with
  | error fault => simp [Work.fail]
  | ok bytes =>
    rw [Except.ok.injEq, ← Reader.decode_eq_ok_iff]
    cases found : Reader.decode bytes with
    | error fault => simp [found, Work.fail]
    | ok text' =>
      simp only [found, Work.result_bind_eq_ok_iff, Work.result_pure, Except.ok.injEq]
      exact ⟨fun ⟨_, _, same⟩ => same, fun same => ⟨(), rfl, same⟩⟩

/-- The input of a run is the text: the standard input if no file is named, and otherwise what the
files hold, in order.  Each file has to hold a text of its own. -/
def Settings.Reads (s : Settings) (input : List UInt8) (fs : Files) (text : String) : Prop :=
  if s.files = [] then input = text.toUTF8.toList
  else ∃ texts : List String,
    List.Forall₂ (fun path t => fs.read path = .ok t.toUTF8.toList) s.files texts ∧
      String.join texts = text

theorem supply_text_eq_ok_iff :
    (s.supply input fs).text.result = .ok text ↔ s.Reads input fs text := by
  unfold Settings.supply Settings.Reads
  by_cases none : s.files = []
  · rw [if_pos none, if_pos (List.isEmpty_iff.mpr none), ← Reader.decode_eq_ok_iff]
    unfold Supply.text
    cases found : Reader.decode input with
    | error fault => simp [found, Work.fail]
    | ok text' => simp [found, Work.done]
  · rw [if_neg none, if_neg (List.isEmpty_iff.not.mpr none)]
    simp only [Supply.text, Work.result_bind_eq_ok_iff, Work.result_mapM_eq_ok_iff,
      List.forall₂_map_left_iff, fileText_eq_ok_iff, Work.result_pure, Except.ok.injEq]

theorem fileText_ordinary (path : String) (content : Except PathFault (List UInt8)) :
    (fileText path content).Ordinary := by
  unfold fileText
  split
  · exact Work.ordinary_fail rfl
  · split
    · exact Work.ordinary_fail rfl
    · exact Work.ordinary_of_ok rfl

theorem text_ordinary (supply : Supply) : supply.text.Ordinary := by
  cases supply with
  | terminal => exact Work.ordinary_fail rfl
  | input bytes =>
    simp only [Supply.text]
    split
    · exact Work.ordinary_fail rfl
    · exact Work.ordinary_of_ok rfl
  | files contents =>
    exact (Work.Ordinary.mapM (fun c => fileText_ordinary c.1 c.2) contents).bind
      fun texts => Work.ordinary_of_ok (Work.result_pure (String.join texts))

/-- A run has at most one input. -/
theorem Settings.Reads.unique {text' : String} (h : s.Reads input fs text)
    (h' : s.Reads input fs text') : text = text' :=
  Except.ok.inj ((supply_text_eq_ok_iff.mpr h).symm.trans (supply_text_eq_ok_iff.mpr h'))

end Input

/-! ## The options -/

/-- A text can hold the unit of indentation. -/
def Settings.Fits (s : Settings) : Prop := s.tabs = true ∨ s.indent ≤ maxBytes

section Options

variable {s : Settings} {o : Options}

theorem options_of_tabs (tabs : s.tabs = true) : s.options = some ⟨s.mode, "\t", s.eol⟩ := by
  rw [Settings.options, if_pos tabs]
  rfl

theorem options_of_spaces (spaces : s.tabs = false) :
    s.options =
      if s.indent ≤ maxBytes then some ⟨s.mode, "".pushn ' ' s.indent, s.eol⟩ else none := by
  rw [Settings.options, if_neg (by simp [spaces]), Options.withSpaces]
  split <;> rfl

/-- The settings say all about the options; only the unit of indentation has to be made. -/
theorem exists_unit (h : s.options = some o) :
    ∃ unit, o = ⟨s.mode, unit, s.eol⟩ ∧ (unit = "\t" ∨ unit = "".pushn ' ' s.indent) := by
  cases tabs : s.tabs with
  | true =>
    rw [options_of_tabs tabs] at h
    exact ⟨_, (Option.some.inj h).symm, .inl rfl⟩
  | false =>
    rw [options_of_spaces tabs] at h
    split at h
    · exact ⟨_, (Option.some.inj h).symm, .inr rfl⟩
    · cases h

/-- There are options when a text can hold the unit of indentation. -/
theorem fits_iff : s.Fits ↔ ∃ o, s.options = some o := by
  unfold Settings.Fits
  cases tabs : s.tabs with
  | true => simp [options_of_tabs tabs]
  | false => simp [options_of_spaces tabs]

theorem not_fits_iff : ¬ s.Fits ↔ s.options = none := by
  rw [fits_iff, ← Option.isSome_iff_exists, Option.not_isSome_iff_eq_none]

end Options

/-! ## The work -/

/-- What a run with these options makes of its input. -/
def product (o : Options) (text : String) : String := o.print text ++ o.eol.text

/-- The input passes the check, if one is asked for. -/
def Settings.Accepts (s : Settings) (text : String) : Prop :=
  s.validate = true → ∃ v, parse text = .ok v

/-- The output can be written, if a file is named for it. -/
def Settings.Writes (s : Settings) (fs : Files) : Prop :=
  ∀ path, s.output = some path → fs.Writable path

section Work

variable {s : Settings} {supply : Supply} {text : String}

theorem check_eq_ok_iff : (s.check text).result = .ok () ↔ s.Accepts text := by
  unfold Settings.check Settings.Accepts
  cases s.validate with
  | false => simp [Work.done]
  | true =>
    rw [if_pos rfl, Work.result_bind_eq_ok_iff]
    cases parse text with
    | error e => simp [Work.note, Work.fail]
    | ok v => simp [Work.note]

theorem check_ordinary (s : Settings) (text : String) : (s.check text).Ordinary := by
  unfold Settings.check
  split
  · refine (Work.ordinary_of_ok (a := ()) rfl).bind fun _ => ?_
    split
    · exact Work.ordinary_fail rfl
    · exact Work.ordinary_of_ok rfl
  · exact Work.ordinary_of_ok rfl

/-- The work succeeds when there is an input, it passes the check, and there are options. -/
theorem work_eq_ok_iff {out : String} :
    (s.work supply).result = .ok out ↔ ∃ text o, supply.text.result = .ok text ∧
      s.Accepts text ∧ s.options = some o ∧ out = product o text := by
  simp only [Settings.work, Work.result_bind_eq_ok_iff, Work.result_pure, ← check_eq_ok_iff,
    Work.result_need_eq_ok_iff, Work.note, product, Except.ok.injEq]
  constructor
  · rintro ⟨text, read, _, checked, o, options, _, _, _, _, rfl⟩
    exact ⟨text, o, read, checked, options, rfl⟩
  · rintro ⟨text, o, read, checked, options, rfl⟩
    exact ⟨text, read, (), checked, o, options, (), trivial, (), trivial, rfl⟩

/-- The work fails with an error when there is no input that passes the check.  When there is one
but there are no options, it panics. -/
theorem code_of_work_eq_error {f : Failure} (failed : (s.work supply).result = .error f) :
    (f.code = 1 ∧ ∀ text, supply.text.result = .ok text → ¬ s.Accepts text) ∨
      f.code = 101 ∧ s.options = none ∧
        ∃ text, supply.text.result = .ok text ∧ s.Accepts text := by
  rw [Settings.work, Work.result_bind] at failed
  cases read : supply.text.result with
  | error f' =>
    rw [read] at failed
    cases failed
    refine .inl ⟨text_ordinary supply f read, ?_⟩
    rintro _ ⟨⟩
  | ok text =>
    rw [read, ok_bind, Work.result_bind] at failed
    cases checked : (s.check text).result with
    | error f' =>
      rw [checked] at failed
      cases failed
      refine .inl ⟨check_ordinary s text f checked, ?_⟩
      rintro _ ⟨⟩ accepted
      cases checked.symm.trans (check_eq_ok_iff.mpr accepted)
    | ok _ =>
      rw [checked, ok_bind, Work.result_bind] at failed
      cases options : s.options with
      | none =>
        rw [options] at failed
        cases failed
        exact .inr ⟨rfl, rfl, text, rfl, check_eq_ok_iff.mp checked⟩
      | some o =>
        rw [options] at failed
        cases failed

end Work

/-! ## How a run ends -/

/-- The ways in which a run can end: it shows its product, or it writes it to a file, or it panics
because no text can hold the unit of indentation, or it fails because something else that it needs
is missing. -/
inductive Settings.Ends (s : Settings) (input : List UInt8) (fs : Files) : Outcome × Files → Prop
  | shows (text : String) (o : Options) (log : List Event) (read : s.Reads input fs text)
      (accepted : s.Accepts text) (options : s.options = some o) (nowhere : s.output = none) :
      Ends s input fs (.success (product o text) log, fs)
  | writes (text path : String) (o : Options) (fs' : Files) (log : List Event)
      (read : s.Reads input fs text) (accepted : s.Accepts text) (options : s.options = some o)
      (output : s.output = some path)
      (written : fs.write path (product o text).toUTF8.toList = .ok fs') :
      Ends s input fs (.success "" log, fs')
  | panics (text : String) (f : Failure) (log : List Event) (code : f.code = 101)
      (read : s.Reads input fs text) (accepted : s.Accepts text) (wide : s.options = none) :
      Ends s input fs (.failure f log, fs)
  | fails (f : Failure) (log : List Event) (code : f.code = 1)
      (missing : ∀ text, s.Reads input fs text → s.Accepts text → s.Fits ∧ ¬ s.Writes fs) :
      Ends s input fs (.failure f log, fs)

section Ends

variable {s : Settings} {input : List UInt8} {fs : Files} {text : String} {o : Options}

/-- Every run ends in one of these ways. -/
theorem Settings.ends (s : Settings) (input : List UInt8) (fs : Files) :
    s.Ends input fs (s.run input fs) := by
  unfold Settings.run
  cases worked : (s.work (s.supply input fs)).result with
  | error f =>
    simp only [worked]
    rcases code_of_work_eq_error worked with ⟨code, none⟩ | ⟨code, wide, text, read, accepted⟩
    · refine .fails f _ code fun text read accepted => ?_
      exact absurd accepted (none text (supply_text_eq_ok_iff.mpr read))
    · exact .panics text f _ code (supply_text_eq_ok_iff.mp read) accepted wide
  | ok out =>
    obtain ⟨text, o, read, accepted, options, rfl⟩ := work_eq_ok_iff.mp worked
    have read := supply_text_eq_ok_iff.mp read
    simp only [worked]
    cases output : s.output with
    | none => exact .shows text o _ read accepted options output
    | some path =>
      cases written : fs.write path (product o text).toUTF8.toList with
      | ok fs' =>
        simp only [written]
        exact .writes text path o fs' _ read accepted options output written
      | error fault =>
        simp only [written]
        refine .fails _ _ rfl fun _ _ _ => ⟨fits_iff.mpr ⟨o, options⟩, fun writable => ?_⟩
        obtain ⟨fs', done⟩ := (Files.writable_iff _).mp (writable path output)
        cases written.symm.trans done

/-- What is noted does not matter for how a run ends. -/
theorem Settings.Ends.shown {a : Outcome × Files} (h : s.Ends input fs a)
    (spelled : Option String) : s.Ends input fs (a.1.shown spelled s, a.2) := by
  cases h with
  | shows text o log read accepted options nowhere =>
    exact .shows text o _ read accepted options nowhere
  | writes text path o fs' log read accepted options output written =>
    exact .writes text path o fs' _ read accepted options output written
  | panics text f log code read accepted wide => exact .panics text f _ code read accepted wide
  | fails f log code missing => exact .fails f _ code missing

theorem run_ends {r : Request} (fs : Files) (h : Settings.ofArguments r.arguments = .ok s) :
    s.Ends r.input fs (run r fs) := by
  unfold run
  rw [h]
  exact (s.ends r.input fs).shown r.filter

variable {a b : Outcome × Files}

/-- A run succeeds when it has all that it needs. -/
theorem Settings.Ends.code_eq_zero_iff (h : s.Ends input fs a) :
    a.1.code = 0 ↔ ∃ text, s.Reads input fs text ∧ s.Accepts text ∧ s.Fits ∧ s.Writes fs := by
  cases h with
  | shows text o log read accepted options nowhere =>
    refine ⟨fun _ => ⟨text, read, accepted, fits_iff.mpr ⟨o, options⟩, fun path output => ?_⟩,
      fun _ => rfl⟩
    cases nowhere.symm.trans output
  | writes text path o fs' log read accepted options output written =>
    refine ⟨fun _ => ⟨text, read, accepted, fits_iff.mpr ⟨o, options⟩, fun path' output' => ?_⟩,
      fun _ => rfl⟩
    cases output.symm.trans output'
    exact (Files.writable_iff _).mpr ⟨fs', written⟩
  | panics text f log code read accepted wide =>
    have failed : (Outcome.failure f log).code = 101 := code
    refine ⟨fun zero => (by cases failed.symm.trans zero), fun ⟨_, _, _, fits, _⟩ => ?_⟩
    exact absurd fits (not_fits_iff.mpr wide)
  | fails f log code missing =>
    have failed : (Outcome.failure f log).code = 1 := code
    refine ⟨fun zero => (by cases failed.symm.trans zero), ?_⟩
    rintro ⟨text, read, accepted, _, writable⟩
    exact absurd writable (missing text read accepted).2

/-- A run panics when it has its input and there are no options. -/
theorem Settings.Ends.code_eq_101_iff (h : s.Ends input fs a) :
    a.1.code = 101 ↔ ¬ s.Fits ∧ ∃ text, s.Reads input fs text ∧ s.Accepts text := by
  cases h with
  | shows text o log read accepted options nowhere =>
    refine ⟨fun code => (by cases code), fun ⟨wide, _⟩ => ?_⟩
    exact absurd (fits_iff.mpr ⟨o, options⟩) wide
  | writes text path o fs' log read accepted options output written =>
    refine ⟨fun code => (by cases code), fun ⟨wide, _⟩ => ?_⟩
    exact absurd (fits_iff.mpr ⟨o, options⟩) wide
  | panics text f log code read accepted wide =>
    exact ⟨fun _ => ⟨not_fits_iff.mpr wide, text, read, accepted⟩, fun _ => code⟩
  | fails f log code missing =>
    have failed : (Outcome.failure f log).code = 1 := code
    refine ⟨fun other => (by cases failed.symm.trans other), ?_⟩
    rintro ⟨wide, text, read, accepted⟩
    exact absurd (missing text read accepted).1 wide

/-- What a run that succeeds leaves behind: its product, in one place. -/
def Settings.Leaves (s : Settings) (fs : Files) (out : String) (a : Outcome × Files) : Prop :=
  match s.output with
  | none => a.1.output = out ∧ a.2 = fs
  | some path => a.1.output = "" ∧ fs.write path out.toUTF8.toList = .ok a.2

theorem Settings.Ends.leaves (h : s.Ends input fs a) (code : a.1.code = 0)
    (read : s.Reads input fs text) (options : s.options = some o) :
    s.Leaves fs (product o text) a := by
  unfold Leaves
  cases h with
  | shows text' o' log read' accepted options' nowhere =>
    obtain rfl : o = o' := Option.some.inj (options.symm.trans options')
    rw [nowhere, read.unique read']
    exact ⟨rfl, rfl⟩
  | writes text' path o' fs' log read' accepted options' output written =>
    obtain rfl : o = o' := Option.some.inj (options.symm.trans options')
    rw [output, read.unique read']
    exact ⟨rfl, written⟩
  | panics text f log panicked => cases panicked.symm.trans code
  | fails f log failed => cases failed.symm.trans code

/-- A run that fails leaves nothing behind. -/
theorem Settings.Ends.failed (h : s.Ends input fs a) (code : a.1.code ≠ 0) :
    a.1.output = "" ∧ a.2 = fs ∧ (a.1.code = 1 ∨ a.1.code = 101) := by
  cases h with
  | shows text o log read accepted options nowhere => exact absurd rfl code
  | writes text path o fs' log read accepted options output written => exact absurd rfl code
  | panics text f log panicked => exact ⟨rfl, rfl, .inr panicked⟩
  | fails f log failed => exact ⟨rfl, rfl, .inl failed⟩

/-- Two runs end with the same code if they succeed alike and panic alike. -/
theorem Settings.Ends.code_eq {s' : Settings} {input' : List UInt8} {fs' : Files}
    (ha : s.Ends input fs a) (hb : s'.Ends input' fs' b) (succeed : a.1.code = 0 ↔ b.1.code = 0)
    (panic : a.1.code = 101 ↔ b.1.code = 101) : a.1.code = b.1.code := by
  by_cases zero : a.1.code = 0
  · exact zero.trans (succeed.mp zero).symm
  · obtain ⟨_, _, codeA⟩ := ha.failed zero
    obtain ⟨_, _, codeB⟩ := hb.failed (zero ∘ succeed.mpr)
    omega

end Ends

end Reprint.Command
