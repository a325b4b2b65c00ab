import Reprint.Layout.Options

set_option autoImplicit false

/-!
# Layout: the output under construction

The printers only append.  What they append is a `Write`: some characters, or a line ending
followed by a number of indentation units.  An `Output` keeps the text written so far and the
indentation of each level that was asked for, so that no level is put together twice.
-/

namespace Reprint.Layout

/-- One thing appended to an output. -/
inductive Write where
  | char (c : Char)
  | text (s : String)
  /-- A line ending, then `level` units of indentation. -/
  | line (level : Nat)
  deriving DecidableEq, Repr

/-- A text under construction. -/
structure Output where
  /-- What has been written. -/
  text : String
  eol : Eol
  /-- Entry `i` is the indentation of level `i`; entry 1 is the unit. -/
  indents : Array String
  deriving DecidableEq, Repr

namespace Output

/-- Nothing written yet; the indentation of the first two levels is at hand. -/
def new (indent : String) (eol : Eol) : Output :=
  ⟨"", eol, #["", indent]⟩

/-- Appends one character. -/
def push (out : Output) (c : Char) : Output :=
  { out with text := out.text.push c }

/-- Appends a string. -/
def pushString (out : Output) (s : String) : Output :=
  { out with text := out.text ++ s }

/-- Adds `count` entries to a table of indentations, each one unit deeper than the last. -/
def deepen (indents : Array String) : Nat → Array String
  | 0 => indents
  | count + 1 => deepen (indents.push (indents.back?.getD "" ++ indents[1]?.getD "")) count

/-- Makes the indentation of `level` available. -/
def reach (out : Output) (level : Nat) : Output :=
  { out with indents := deepen out.indents (level + 1 - out.indents.size) }

/-- Appends a line ending and `level` units of indentation. -/
def newLine (out : Output) (level : Nat) : Output :=
  let out := out.reach level
  { out with text := out.text ++ out.eol.text ++ out.indents[level]?.getD "" }

/-- Appends one write. -/
def write (out : Output) : Write → Output
  | .char c => out.push c
  | .text s => out.pushString s
  | .line level => out.newLine level

/-- Appends several writes in order. -/
def writeAll (out : Output) (ws : List Write) : Output :=
  ws.foldl write out

end Output

end Reprint.Layout
