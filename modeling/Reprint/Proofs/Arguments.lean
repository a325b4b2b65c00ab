import Reprint.Command.Arguments
import Reprint.Proofs.Fallible

set_option autoImplicit false

/-!
# Arguments one after the other

Arguments are read from left to right, so what has been read of the first of them is all that the
rest can depend on.  Options that have been settled stay in the settings.
-/

namespace Reprint.Command

namespace Reading

variable {r r' : Reading} {text name : String} {arguments : List String}

/-! ## What is on record -/

/-- An output that has been given is in the settings. -/
def Recorded (r : Reading) : Prop :=
  .valued .output ∈ r.seen → r.settings.output ≠ none

theorem note_eq_ok_iff {key : Key} :
    r.note key = .ok r' ↔ key ∉ r.seen ∧ r' = { r with seen := key :: r.seen } := by
  unfold note
  split
  · next given => simp [given]
  · next new => simp [new, eq_comm]

/-- The value of an option is all that is taken into the settings. -/
theorem output_of_store {s s' : Settings} {v : Valued} (h : store s v text = .ok s') :
    (v = .output → s'.output ≠ none) ∧ (v ≠ .output → s'.output = s.output) := by
  cases v with
  | output =>
    simp only [store] at h
    split at h
    · cases h
    · cases h
      exact ⟨fun _ => Option.some_ne_none text, fun other => absurd rfl other⟩
  | indent =>
    simp only [store] at h
    split at h
    · cases h
      exact ⟨fun same => (by cases same), fun _ => rfl⟩
    · cases h
  | eol =>
    simp only [store] at h
    split at h
    · cases h
      exact ⟨fun same => (by cases same), fun _ => rfl⟩
    split at h
    · cases h
      exact ⟨fun same => (by cases same), fun _ => rfl⟩
    split at h <;> cases h

theorem Recorded.assign {v : Valued} (recorded : r.Recorded) (h : r.assign v text = .ok r') :
    r'.Recorded := by
  obtain ⟨noted, note, h⟩ := bind_eq_ok_iff.mp h
  obtain ⟨settings, stored, h⟩ := bind_eq_ok_iff.mp h
  obtain ⟨-, rfl⟩ := note_eq_ok_iff.mp note
  cases h
  obtain ⟨given, other⟩ := output_of_store (mapError_eq_ok_iff.mp stored)
  intro seen
  show settings.output ≠ none
  by_cases same : v = .output
  · exact given same
  · rw [other same]
    refine recorded ((List.mem_cons.mp seen).resolve_left fun h => same ?_)
    cases h
    rfl

theorem Recorded.settle (recorded : r.Recorded) (h : r.settle = .ok r') : r'.Recorded := by
  unfold Reading.settle at h
  split at h
  · cases h
    exact recorded
  · cases h
  · exact Recorded.assign (r := { r with pending := .nothing }) recorded h
  · split at h
    · cases h
    · cases h
      exact recorded

theorem Recorded.flag {f : Flag} (recorded : r.Recorded) (h : r.flag f = .ok r') :
    r'.Recorded := by
  obtain ⟨settled, settle, h⟩ := bind_eq_ok_iff.mp h
  obtain ⟨noted, note, h⟩ := bind_eq_ok_iff.mp h
  obtain ⟨-, rfl⟩ := note_eq_ok_iff.mp note
  cases h
  intro seen
  have same : (turnOn settled.settings f).output = settled.settings.output := by cases f <;> rfl
  show (turnOn settled.settings f).output ≠ none
  rw [same]
  exact recorded.settle settle ((List.mem_cons.mp seen).resolve_left (by simp))

theorem Recorded.valued {v : Valued} {attached : Option String} (recorded : r.Recorded)
    (h : r.valued v attached = .ok r') : r'.Recorded := by
  obtain ⟨settled, settle, h⟩ := bind_eq_ok_iff.mp h
  cases attached with
  | some text => exact (recorded.settle settle).assign h
  | none =>
    have kept := recorded.settle settle
    cases h
    exact kept

theorem stop_ne_ok {s : Stop} : r.stop s ≠ .ok r' := by
  intro h
  obtain ⟨_, _, h⟩ := bind_eq_ok_iff.mp h
  cases h

theorem Recorded.long {letters : List Char} (recorded : r.Recorded)
    (h : r.long letters = .ok r') : r'.Recorded := by
  unfold Reading.long at h
  extract_lets name attached at h
  clear_value attached
  split at h
  · cases h
  · exact recorded.valued h
  · cases h
  · exact recorded.flag h
  · exact absurd h stop_ne_ok
  · exact absurd h stop_ne_ok

theorem Recorded.short {letters : List Char} (recorded : r.Recorded)
    (h : r.short letters = .ok r') : r'.Recorded := by
  induction letters generalizing r with
  | nil =>
    cases h
    exact recorded
  | cons c letters ih =>
    unfold Reading.short at h
    split at h
    · cases h
    · obtain ⟨next, flag, h⟩ := bind_eq_ok_iff.mp h
      exact ih (recorded.flag flag) h
    · exact recorded.valued h
    · exact absurd h stop_ne_ok
    · exact absurd h stop_ne_ok

theorem Recorded.file (recorded : r.Recorded) (h : r.file name = .ok r') : r'.Recorded := by
  unfold Reading.file at h
  split at h
  · cases h
    exact recorded
  · obtain ⟨settled, settle, h⟩ := bind_eq_ok_iff.mp h
    have kept := recorded.settle settle
    cases h
    exact kept

theorem Recorded.plain (recorded : r.Recorded) (h : r.plain text = .ok r') : r'.Recorded := by
  unfold Reading.plain at h
  split at h
  · cases h
    exact recorded
  · exact recorded.file h

theorem Recorded.files {names : List String} (recorded : r.Recorded)
    (h : names.foldlM Reading.file r = .ok r') : r'.Recorded := by
  induction names generalizing r with
  | nil =>
    cases h
    exact recorded
  | cons name names ih =>
    rw [List.foldlM_cons] at h
    obtain ⟨next, file, h⟩ := bind_eq_ok_iff.mp h
    exact ih (recorded.file file) h

theorem Recorded.all (recorded : r.Recorded) (h : r.all arguments = .ok r') : r'.Recorded := by
  induction arguments generalizing r with
  | nil =>
    cases h
    exact recorded
  | cons argument arguments ih =>
    unfold Reading.all at h
    split at h
    · exact recorded.files h
    · obtain ⟨next, long, h⟩ := bind_eq_ok_iff.mp h
      exact ih (recorded.long long) h
    · obtain ⟨next, short, h⟩ := bind_eq_ok_iff.mp h
      exact ih (recorded.short short) h
    · obtain ⟨next, plain, h⟩ := bind_eq_ok_iff.mp h
      exact ih (recorded.plain plain) h

/-! ## One argument after the other -/

/-- Reads one argument, which is not two hyphens alone. -/
def one (r : Reading) (argument : String) : Except Stop Reading :=
  match argument.toList with
  | '-' :: '-' :: letters => r.long letters
  | '-' :: c :: letters => r.short (c :: letters)
  | _ => r.plain argument

theorem all_eq_foldlM (unended : "--" ∉ arguments) : r.all arguments = arguments.foldlM one r := by
  induction arguments generalizing r with
  | nil => rfl
  | cons argument arguments ih =>
    have here : argument.toList ≠ "--".toList := fun ends =>
      unended (String.toList_injective ends ▸ List.mem_cons_self)
    have later : "--" ∉ arguments := fun ends => unended (List.mem_cons_of_mem argument ends)
    have step : r.all (argument :: arguments) = r.one argument >>= fun r => r.all arguments := by
      rw [Reading.all, one]
      split
      · next ends => exact absurd ends here
      · next shape => simp only [shape]
      · next shape => simp only [shape]
      · next noEnd noLong noShort =>
        split
        · next shape => exact (noLong _ shape).elim
        · next shape => exact (noShort _ _ shape).elim
        · rfl
    rw [step, List.foldlM_cons]
    exact congrArg (r.one argument >>= ·) (funext fun r => ih later)

/-! ## A file and the output -/

/-- A word that names a file wherever it stands among the arguments. -/
def IsName (name : String) : Prop :=
  name ≠ "" ∧ ∀ (c : Char) (letters : List Char), name.toList ≠ '-' :: c :: letters

theorem one_name (h : IsName name) : r.one name = r.plain name := by
  unfold one
  split
  · next shape => exact absurd shape (h.2 _ _)
  · next shape => exact absurd shape (h.2 _ _)
  · rfl

/-- An option must be new, and its value one that it takes. -/
theorem settle_value_eq_ok_iff {v : Valued} (h : r.pending = .value v (some text)) :
    r.settle = .ok r' ↔
      .valued v ∉ r.seen ∧ ∃ s, store r.settings v text = .ok s ∧
        r' = ⟨s, .valued v :: r.seen, .nothing⟩ := by
  simp only [Reading.settle, h, Reading.assign, bind_eq_ok_iff, note_eq_ok_iff,
    mapError_eq_ok_iff]
  constructor
  · rintro ⟨noted, ⟨new, rfl⟩, s, stored, h⟩
    cases h
    exact ⟨new, s, stored, rfl⟩
  · rintro ⟨new, s, stored, rfl⟩
    exact ⟨_, ⟨new, rfl⟩, s, stored, rfl⟩

end Reading

open Reading

/-- A style of line endings in two words is not looked at before all else has been settled. -/
theorem foldlM_eol_eq_ok_iff {r r' : Reading} {word : String} (named : IsName word) :
    ["--eol", word].foldlM one r = .ok r' ↔
      ∃ settled, r.settle = .ok settled ∧
        r' = { settled with pending := .value .eol (some word) } := by
  have last (settled : Reading) :
      [word].foldlM one { settled with pending := .value .eol none } =
        .ok { settled with pending := .value .eol (some word) } := by
    rw [List.foldlM_cons, one_name named]
    rfl
  have first : r.one "--eol" = r.valued .eol none := rfl
  rw [List.foldlM_cons, first, Reading.valued, bind_eq_ok_iff]
  constructor
  · rintro ⟨waiting, asked, h⟩
    obtain ⟨settled, settle, asked⟩ := bind_eq_ok_iff.mp asked
    cases asked
    exact ⟨settled, settle, Except.ok.inj (h.symm.trans (last settled))⟩
  · rintro ⟨settled, settle, rfl⟩
    exact ⟨_, bind_eq_ok_iff.mpr ⟨settled, settle, rfl⟩, last settled⟩

/-- Behind other arguments a style is taken into their settings, if none was asked for before and it
goes by that name. -/
theorem ofArguments_eol_eq_ok_iff {flags : List String} {s : Settings} {word : String}
    (unended : "--" ∉ flags) (named : IsName word) :
    Settings.ofArguments (flags ++ ["--eol", word]) = .ok s ↔
      ∃ r settled, flags.foldlM one {} = .ok r ∧ r.settle = .ok settled ∧
        .valued .eol ∉ settled.seen ∧ store settled.settings .eol word = .ok s := by
  have unended' : "--" ∉ flags ++ ["--eol", word] := by
    have other : "--" ≠ word := fun same => named.2 '-' [] (same ▸ rfl)
    simp [unended, other]
  rw [Settings.ofArguments, all_eq_foldlM unended', List.foldlM_append, bind_eq_ok_iff]
  constructor
  · rintro ⟨last, all, h⟩
    obtain ⟨r', settle, h⟩ := bind_eq_ok_iff.mp h
    obtain ⟨r, before, all⟩ := bind_eq_ok_iff.mp all
    obtain ⟨settled, settles, rfl⟩ := (foldlM_eol_eq_ok_iff named).mp all
    obtain ⟨new, s', stored, rfl⟩ := (settle_value_eq_ok_iff rfl).mp settle
    cases h
    exact ⟨r, settled, before, settles, new, stored⟩
  · rintro ⟨r, settled, before, settles, new, stored⟩
    refine ⟨{ settled with pending := .value .eol (some word) }, ?_, ?_⟩
    · exact bind_eq_ok_iff.mpr
        ⟨r, before, (foldlM_eol_eq_ok_iff named).mpr ⟨settled, settles, rfl⟩⟩
    · exact bind_eq_ok_iff.mpr ⟨_, (settle_value_eq_ok_iff rfl).mpr ⟨new, s, stored, rfl⟩, rfl⟩

/-- Where line feeds are asked for behind other arguments, carriage returns with line feeds can be
asked for instead, and this changes the line ending only. -/
theorem ofArguments_crlf {flags : List String} {s : Settings} (unended : "--" ∉ flags)
    (h : Settings.ofArguments (flags ++ ["--eol", "lf"]) = .ok s) :
    s.eol = .lf ∧
      Settings.ofArguments (flags ++ ["--eol", "crlf"]) = .ok { s with eol := .crlf } := by
  have lf : IsName "lf" := ⟨by decide, fun c letters => by simp⟩
  have crlf : IsName "crlf" := ⟨by decide, fun c letters => by simp⟩
  obtain ⟨r, settled, before, settles, new, stored⟩ := (ofArguments_eol_eq_ok_iff unended lf).mp h
  cases stored
  exact ⟨rfl, (ofArguments_eol_eq_ok_iff unended crlf).mpr
    ⟨r, settled, before, settles, new, rfl⟩⟩

end Reprint.Command
