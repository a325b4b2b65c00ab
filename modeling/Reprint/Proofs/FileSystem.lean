import Reprint.Command.Files
import Reprint.Proofs.Fallible

set_option autoImplicit false

/-!
# Reading and writing files

A path that can be written leads to a place where no directory is and that the system lets be
written.  What is written there is held there afterwards, nothing else changes, and of two contents
written one after the other the first leaves no trace.  The way to the place goes through
directories only, so it is the same before and after.  That a file can be written does not follow
from its being readable, nor the other way round.
-/

namespace Reprint.Command.Files

variable {fs : Files} {p q : Place} {path : String} {bytes : List UInt8}

/-! ## Places -/

theorem at?_put_self (fs : Files) (named : p ≠ []) (e : Entry) : (fs.put p e).at? p = some e := by
  simp [at?, put, named]

theorem lookup_filter_ne (other : q ≠ p) (entries : List (Place × Entry)) :
    (entries.filter (·.1 ≠ p)).lookup q = entries.lookup q := by
  induction entries with
  | nil => rfl
  | cons entry entries ih =>
    by_cases same : entry.1 = p
    · have skip : (q == entry.1) = false := beq_false_of_ne (same ▸ other)
      rw [List.filter_cons_of_neg (by simpa using same), ih, List.lookup_cons, skip]
    · rw [List.filter_cons_of_pos (by simpa using same), List.lookup_cons, List.lookup_cons, ih]

/-- Putting an entry at a place does not show at other places. -/
theorem at?_put_of_ne (other : q ≠ p) (e : Entry) : (fs.put p e).at? q = fs.at? q := by
  unfold at? put
  split
  · rfl
  · rw [List.lookup_cons, beq_false_of_ne other]
    exact lookup_filter_ne other fs.entries

theorem named_of_not_directory (h : fs.at? p ≠ some .directory) : p ≠ [] := by
  rintro rfl
  exact h rfl

/-! ## Ways -/

/-- A step is taken from a directory. -/
theorem directory_of_step {name : String} (h : fs.step p name = .ok q) :
    fs.at? p = some .directory := by
  unfold step at h
  split at h
  · assumption
  · cases h
  · cases h

theorem foldlM_step_put (e : Entry) (free : fs.at? p ≠ some .directory) {names : List String}
    {here : Place} (h : names.foldlM fs.step here = .ok q) :
    names.foldlM (fs.put p e).step here = .ok q := by
  induction names generalizing here with
  | nil => exact h
  | cons name names ih =>
    rw [List.foldlM_cons] at h ⊢
    obtain ⟨next, taken, h⟩ := bind_eq_ok_iff.mp h
    have other : here ≠ p := by
      rintro rfl
      exact free (directory_of_step taken)
    have again : (fs.put p e).step here name = .ok next := by
      rw [← taken, step, at?_put_of_ne other]
      rfl
    exact bind_eq_ok_iff.mpr ⟨next, again, ih h⟩

/-- A way stays the same when something is put where no directory is. -/
theorem resolve_put (e : Entry) (free : fs.at? p ≠ some .directory)
    (h : fs.resolve path = .ok q) : (fs.put p e).resolve path = .ok q := by
  unfold resolve at h ⊢
  split at h
  · cases h
  · next short =>
    rw [if_neg short]
    exact foldlM_step_put e free h

/-! ## Files -/

/-- The path leads to a place that may hold a file: no directory is there, and none is asked for. -/
structure Leads (fs : Files) (path : String) (p : Place) : Prop where
  resolve : fs.resolve path = .ok p
  free : fs.at? p ≠ some .directory
  named : asksDirectory path = false

/-- The path still leads to a place when a file has been put there. -/
theorem Leads.put (h : fs.Leads path p) (bytes : List UInt8) :
    (fs.put p (.file bytes)).Leads path p := by
  have held := at?_put_self fs (named_of_not_directory h.free) (.file bytes)
  exact ⟨resolve_put _ h.free h.resolve, by simp [held], h.named⟩

theorem Leads.unique (h : fs.Leads path p) (h' : fs.Leads path q) : p = q :=
  Except.ok.inj (h.resolve.symm.trans h'.resolve)

/-- The system grants access to a place. -/
def Grants (fs : Files) (a : Access) (p : Place) : Prop := fs.ask a p = .ok ()

/-- A file can be written at the path. -/
def Writable (fs : Files) (path : String) : Prop := ∃ p, fs.Leads path p ∧ fs.Grants .write p

/-- What the file that a path leads to holds, whether it may be read or not. -/
def content (fs : Files) (path : String) : Option (List UInt8) :=
  match fs.resolve path with
  | .error _ => none
  | .ok p =>
    match fs.at? p with
    | some (.file bytes) => some bytes
    | _ => none

theorem content_eq_of_leads (h : fs.Leads path p) (held : fs.at? p = some (.file bytes)) :
    fs.content path = some bytes := by
  simp only [content, h.resolve, held]

theorem write_eq_ok_iff {fs' : Files} :
    fs.write path bytes = .ok fs' ↔
      ∃ p, fs.Leads path p ∧ fs.Grants .write p ∧ fs' = fs.put p (.file bytes) := by
  unfold write
  rw [bind_eq_ok_iff]
  constructor
  · rintro ⟨p, found, put⟩
    split at put
    · cases put
    · next free =>
      obtain ⟨_, granted, put⟩ := bind_eq_ok_iff.mp put
      cases put
      obtain ⟨free, named⟩ := not_or.mp free
      exact ⟨p, ⟨found, free, by simpa using named⟩, granted, rfl⟩
  · rintro ⟨p, leads, granted, rfl⟩
    refine ⟨p, leads.resolve, ?_⟩
    rw [if_neg (by simp [leads.free, leads.named])]
    exact bind_eq_ok_iff.mpr ⟨(), granted, rfl⟩

/-- What is to be written does not decide whether it can be. -/
theorem writable_iff (bytes : List UInt8) :
    fs.Writable path ↔ ∃ fs', fs.write path bytes = .ok fs' := by
  constructor
  · rintro ⟨p, leads, granted⟩
    exact ⟨_, write_eq_ok_iff.mpr ⟨p, leads, granted, rfl⟩⟩
  · rintro ⟨fs', written⟩
    obtain ⟨p, leads, granted, _⟩ := write_eq_ok_iff.mp written
    exact ⟨p, leads, granted⟩

/-! ## After writing -/

/-- The two file systems are the same but for the file at the path, which holds `bytes` in the
second. -/
structure Replaced (fs : Files) (path : String) (bytes : List UInt8) (fs' : Files) : Prop where
  home : fs'.home = fs.home
  refusals : fs'.refusals = fs.refusals
  content : fs'.content path = some bytes
  places : ∀ p, fs.resolve path = .ok p →
    ∀ q, fs'.at? q = if q = p then some (.file bytes) else fs.at? q

section Write

variable {fs' : Files} (h : fs.write path bytes = .ok fs')

include h

theorem replaced_of_write : fs.Replaced path bytes fs' := by
  obtain ⟨p, leads, _, rfl⟩ := write_eq_ok_iff.mp h
  have held := at?_put_self fs (named_of_not_directory leads.free) (.file bytes)
  refine ⟨rfl, rfl, content_eq_of_leads (leads.put bytes) held, fun p' found q => ?_⟩
  obtain rfl : p = p' := Except.ok.inj (leads.resolve.symm.trans found)
  split
  · next same => rw [same, held]
  · next other => exact at?_put_of_ne other _

end Write

end Reprint.Command.Files
