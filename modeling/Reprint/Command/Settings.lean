import Reprint.Layout.Options

set_option autoImplicit false

/-!
# Command: settings

What the arguments of a run choose, the options that arguments may name, and what the command says
of itself.  Numbers are given as decimal digits after an optional plus sign.
-/

namespace Reprint.Command

open Reprint.Layout

/-! ## What a run does -/

/-- What a run does. -/
structure Settings where
  /-- The files to read, in order; without any, the standard input is read. -/
  files : List String := []
  /-- The file to write; without one, the standard output is written. -/
  output : Option String := none
  compact : Bool := false
  /-- Spaces per level of indentation. -/
  indent : Nat := 2
  /-- Indents by tabs, whatever the number of spaces. -/
  tabs : Bool := false
  eol : Eol := .lf
  /-- Refuses input that is not JSON. -/
  validate : Bool := false
  verbose : Bool := false
  deriving DecidableEq, Repr, Inhabited

/-- The form that the input is printed in. -/
def Settings.mode (s : Settings) : Mode := if s.compact then .minimal else .pretty

/-- How the settings want the input printed.  The unit of indentation is made even for the compact
form, which does not look at it; there is none of more spaces than a text can have. -/
def Settings.options (s : Settings) : Option Options := do
  let o ← if s.tabs then some Options.recommended.withTabs
    else Options.recommended.withSpaces s.indent
  return { o with mode := s.mode, eol := s.eol }

/-! ## What arguments may name -/

/-- An option that stands alone. -/
inductive Flag where
  | compact
  | tabs
  | validate
  | verbose
  deriving DecidableEq, Repr

/-- An option that takes a value. -/
inductive Valued where
  | output
  | indent
  | eol
  deriving DecidableEq, Repr

/-- Everything that an argument may name. -/
inductive Key where
  | flag (f : Flag)
  | valued (v : Valued)
  | help
  | version
  deriving DecidableEq, Repr

namespace Key

/-- Every key with its long name and its short one, if it has one. -/
def table : List (Key × String × Option Char) :=
  [(.valued .output, "output", some 'o'), (.flag .compact, "compact", some 'c'),
   (.valued .indent, "indent", some 'i'), (.flag .tabs, "tabs", some 't'),
   (.valued .eol, "eol", none), (.flag .validate, "validate", none),
   (.flag .verbose, "verbose", some 'v'), (.help, "help", some 'h'),
   (.version, "version", some 'V')]

/-- The key with this long name. -/
def ofLong? (name : String) : Option Key :=
  (table.find? fun entry => entry.2.1 = name).map Prod.fst

/-- The key with this short name. -/
def ofShort? (c : Char) : Option Key :=
  (table.find? fun entry => entry.2.2 = some c).map Prod.fst

/-- How messages name a key. -/
def label : Key → String
  | .flag .compact => "--compact"
  | .flag .tabs => "--tabs"
  | .flag .validate => "--validate"
  | .flag .verbose => "--verbose"
  | .valued .output => "--output <FILE>"
  | .valued .indent => "--indent <INDENT>"
  | .valued .eol => "--eol <EOL>"
  | .help => "--help"
  | .version => "--version"

end Key

/-- How messages name the files to read. -/
def filesLabel : String := "[FILE]..."

/-! ## Counts -/

/-- What is wrong with a count. -/
inductive CountFault where
  | empty
  | badDigit
  | tooLarge
  deriving DecidableEq, Repr

/-- What is said about a count. -/
def CountFault.message : CountFault → String
  | .empty => "cannot parse integer from empty string"
  | .badDigit => "invalid digit found in string"
  | .tooLarge => "number too large to fit in target type"

/-- The number that decimal digits write, after an optional plus sign; it has to fit 64 bits. -/
def count (text : String) : Except CountFault Nat :=
  match text.toList with
  | [] => .error .empty
  | ['+'] => .error .badDigit
  | '+' :: ds | ds =>
    ds.foldlM (fun n c =>
      if ¬ c.isDigit then .error .badDigit
      else
        let n := n * 10 + (c.toNat - '0'.toNat)
        if n < UInt64.size then .ok n else .error .tooLarge) 0

/-! ## Usage -/

/-- The name and the version of the program. -/
def versionText : String := "jsonprint 0.1.0\n"

/-- How the program is used. -/
def helpText : String :=
  "A uniform JSON value abstraction plus a lexical compact/pretty JSON reprinter.\n" ++
  "\n" ++
  "Usage: jsonprint [OPTIONS] [FILE]...\n" ++
  "\n" ++
  "Arguments:\n" ++
  "  [FILE]...  Input file(s). If not specified, reads from stdin\n" ++
  "\n" ++
  "Options:\n" ++
  "  -o, --output <FILE>    Output file. If not specified, writes to stdout\n" ++
  "  -c, --compact          Minify output (remove all whitespace outside strings)\n" ++
  "  -i, --indent <INDENT>  Number of spaces per indentation level [default: 2]\n" ++
  "  -t, --tabs             Use tabs instead of spaces for indentation\n" ++
  "      --eol <EOL>        Line ending style [default: lf] [possible values: lf, crlf]\n" ++
  "      --validate         Reject input that is not valid JSON before reprinting it\n" ++
  "  -v, --verbose          Log progress to stderr (RUST_LOG overrides)\n" ++
  "  -h, --help             Print help\n" ++
  "  -V, --version          Print version\n"

end Reprint.Command
