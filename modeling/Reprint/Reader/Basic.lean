import Reprint.Reader.Fault
import Reprint.Text.Ranges

set_option autoImplicit false

/-!
# Reader: steps

A step takes something off the front of a text and hands back the rest.
-/

namespace Reprint.Reader

/-- Takes an `α` off the front of a text, or says why not. -/
abbrev Step (α : Type) : Type := List Char → Except Fault (α × List Char)

/-- Makes something else of what a step took. -/
def found {α β : Type} (f : α → β) (r : Except Fault (α × List Char)) :
    Except Fault (β × List Char) :=
  r.map fun p => (f p.1, p.2)

section Found

variable {α β : Type} (f : α → β)

@[simp] theorem found_ok (a : α) (rest : List Char) : found f (.ok (a, rest)) = .ok (f a, rest) :=
  rfl

@[simp] theorem found_error (e : Fault) : found f (.error e) = .error e := rfl

theorem found_eq_ok_iff {r : Except Fault (α × List Char)} {b : β} {rest : List Char} :
    found f r = .ok (b, rest) ↔ ∃ a, r = .ok (a, rest) ∧ f a = b := by
  match r with
  | .error _ => exact ⟨fun h => (nomatch h), fun ⟨_, h, _⟩ => nomatch h⟩
  | .ok (a, rest') =>
    refine ⟨fun h => ?_, fun ⟨a', h, hb⟩ => ?_⟩
    · cases h; exact ⟨a, rfl, rfl⟩
    · cases h; cases hb; rfl

end Found

/-- The text without the white space at its front. -/
def skipGap (text : List Char) : List Char := text.dropWhile Text.isGap

/-- Takes given letters off the front of a text. -/
def word : List Char → List Char → Except Fault (List Char)
  | [], text => .ok text
  | _ :: _, [] => .error (.here .endInValue [])
  | l :: letters, c :: text =>
    if c = l then word letters text else .error (.past 1 .wrongWord (c :: text))

end Reprint.Reader
