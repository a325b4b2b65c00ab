import Reprint.Layout.Output

set_option autoImplicit false

/-!
# Layout: one pass over a text

A printer here is a pass: it reads a text once from left to right, carries a state, and decides
from the state and the current character alone what is written.  What a pass writes for a text is
therefore the concatenation of what it writes at each position, and a text that brings the state
back to where it started can be followed by any other.
-/

namespace Reprint.Layout

/-- A left-to-right pass with states in `σ`. -/
structure Pass (σ : Type) where
  start : σ
  /-- What is written when the character is met in this state. -/
  writes : σ → Char → List Write
  /-- The state after the character. -/
  next : σ → Char → σ

namespace Pass

variable {σ : Type}

/-- The state after a text. -/
def after (p : Pass σ) (s : σ) (text : List Char) : σ :=
  text.foldl p.next s

/-- All that is written for a text, in order. -/
def writesOf (p : Pass σ) (s : σ) : List Char → List Write
  | [] => []
  | c :: text => p.writes s c ++ p.writesOf (p.next s c) text

/-- The output after a text, written as the pass goes. -/
def feed (p : Pass σ) (s : σ) (out : Output) (text : List Char) : Output :=
  (text.foldl (fun (st : σ × Output) c => (p.next st.1 c, st.2.writeAll (p.writes st.1 c)))
    (s, out)).2

/-- The text that the pass makes of `text`, starting from an empty output. -/
def run (p : Pass σ) (indent : String) (eol : Eol) (text : String) : String :=
  (p.feed p.start (Output.new indent eol) text.toList).text

theorem after_append (p : Pass σ) (s : σ) (t u : List Char) :
    p.after s (t ++ u) = p.after (p.after s t) u := by
  simp [after]

theorem writesOf_append (p : Pass σ) (s : σ) (t u : List Char) :
    p.writesOf s (t ++ u) = p.writesOf s t ++ p.writesOf (p.after s t) u := by
  induction t generalizing s with
  | nil => rfl
  | cons c t ih => simp [writesOf, ih, after]

/-- Writing as the pass goes is the same as writing everything at the end. -/
theorem feed_eq_writeAll (p : Pass σ) (s : σ) (out : Output) (text : List Char) :
    p.feed s out text = out.writeAll (p.writesOf s text) := by
  induction text generalizing s out with
  | nil => rfl
  | cons c text ih =>
    have step : p.feed s out (c :: text) =
        p.feed (p.next s c) (out.writeAll (p.writes s c)) text := rfl
    rw [step, ih]
    simp [writesOf, Output.writeAll]

end Pass

end Reprint.Layout
