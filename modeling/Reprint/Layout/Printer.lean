import Reprint.Layout.Pass
import Reprint.Text.Ranges
import Reprint.Text.Scanner

set_option autoImplicit false

/-!
# Layout: the printers

In the minimal form every white-space character outside string literals is dropped and all else is
kept.  In the pretty form objects are broken one member per line and arrays stay on one line.  That
pass works on characters: it counts open braces to indent, and remembers the last bracket to tell
the commas of an array from those of an object.

The text need not be JSON.  An unterminated literal runs to the end of the text, and a brace that
closes nothing leaves the level at zero.
-/

namespace Reprint.Layout

open Reprint.Text

/-! ## The minimal form -/

/-- The pass that drops white space outside literals. -/
def minimalPass : Pass Scanner where
  start := .start
  writes s c := if s.inLiteral c || !isBlank c then [.char c] else []
  next := Scanner.next

/-- The minimal form of a text. -/
def minify (text : String) : String :=
  minimalPass.run "" .lf text

/-! ## The pretty form -/

/-- The state of the pretty form. -/
structure Indenting where
  scanner : Scanner
  /-- How many braces are open. -/
  level : Nat
  /-- The last bracket outside literals was an opening one. -/
  inArray : Bool
  deriving DecidableEq, Repr

namespace Indenting

/-- At the start of a text nothing is open. -/
def start : Indenting := ⟨.start, 0, false⟩

/-- What is written for a character. -/
def writes (s : Indenting) (c : Char) : List Write :=
  if s.scanner.inLiteral c then [.char c]
  else if c = '{' then [.char c, .line (s.level + 1)]
  else if c = '}' then [.line (s.level - 1), .char c]
  else if c = '[' then [.text "[ "]
  else if c = ']' then [.text " ]"]
  else if c = ',' then
    if s.inArray then [.text ", "] else [.char c, .line s.level]
  else if c = ':' then [.text " : "]
  else if isBlank c then []
  else [.char c]

/-- The number of open braces after a character. -/
def nextLevel (s : Indenting) (c : Char) : Nat :=
  if s.scanner.inLiteral c then s.level
  else if c = '{' then s.level + 1
  else if c = '}' then s.level - 1
  else s.level

/-- Whether the last bracket, this character included, was an opening one. -/
def nextInArray (s : Indenting) (c : Char) : Bool :=
  if s.scanner.inLiteral c then s.inArray
  else if c = '[' then true
  else if c = ']' then false
  else s.inArray

/-- The state after a character. -/
def next (s : Indenting) (c : Char) : Indenting :=
  ⟨s.scanner.next c, s.nextLevel c, s.nextInArray c⟩

end Indenting

/-- The pass that breaks objects into indented lines. -/
def prettyPass : Pass Indenting where
  start := .start
  writes := Indenting.writes
  next := Indenting.next

/-- The pretty form of a text, with a unit of indentation and a line ending. -/
def prettify (text : String) (indent : String) (eol : Eol) : String :=
  prettyPass.run indent eol text

/-! ## Printing by options -/

namespace Options

/-- The form of a text that the options select. -/
def print (o : Options) (text : String) : String :=
  match o.mode with
  | .minimal => minify text
  | .pretty => prettify text o.indent o.eol

end Options

end Reprint.Layout
