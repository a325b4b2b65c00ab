set_option autoImplicit false

/-!
# Layout: options

What a caller may choose about the printed form: which form, the text written once per level of
indentation, and the line ending.
-/

namespace Reprint.Layout

/-- How a line ends. -/
inductive Eol where
  /-- A line feed. -/
  | lf
  /-- A carriage return and a line feed. -/
  | crlf
  deriving DecidableEq, Repr, Inhabited

/-- The characters of a line ending. -/
def Eol.text : Eol → String
  | .lf => "\n"
  | .crlf => "\r\n"

/-- The form that a text is printed in. -/
inductive Mode where
  /-- Objects broken one member per line, arrays kept on one line. -/
  | pretty
  /-- All white space outside string literals removed. -/
  | minimal
  deriving DecidableEq, Repr, Inhabited

/-- The choices of a printer.  The minimal form has no white space, so only the pretty form looks
at `indent` and `eol`. -/
structure Options where
  mode : Mode
  /-- Written once per level of indentation. -/
  indent : String
  eol : Eol
  deriving DecidableEq, Repr

/-- The most bytes that a text can have. -/
def maxBytes : Nat := 9223372036854775807

namespace Options

/-- The pretty form with two spaces per level and line feeds. -/
def recommended : Options := ⟨.pretty, "  ", .lf⟩

instance : Inhabited Options := ⟨recommended⟩

/-- The minimal form; the rest as recommended. -/
def minimal : Options := { recommended with mode := .minimal }

/-- Indents by `count` spaces per level, unless no text can have that many. -/
def withSpaces (o : Options) (count : Nat) : Option Options :=
  if count ≤ maxBytes then some { o with indent := "".pushn ' ' count } else none

/-- Indents by one tab per level. -/
def withTabs (o : Options) : Options :=
  { o with indent := "\t" }

end Options

end Reprint.Layout
