import Reprint.Command.Settings
import Reprint.Text.Plain

set_option autoImplicit false

/-!
# Command: reading arguments

Arguments are read from left to right.  An option and the value in the argument after it, and the
file names in a row, stay pending until another option or the end of the arguments settles them;
only then are they looked at.  So an argument that names no option is reported even when a pending
value is bad, while any other option reports the pending one first.
-/

namespace Reprint.Command

open Reprint.Layout Reprint.Text

/-- What is wrong with the arguments. -/
inductive UsageFault where
  /-- The argument, or a letter of it, names no option. -/
  | unexpected (argument : String)
  /-- A value is missing or empty. -/
  | noValue (label : String)
  | badCount (text : String) (fault : CountFault)
  | badEol (text : String)
  /-- An option is given twice. -/
  | repeated (key : Key)
  /-- A value is given to an option that takes none. -/
  | needless (text : String) (key : Key)
  deriving DecidableEq, Repr

/-- What is said about the arguments.  What the arguments hold is quoted without control sequences. -/
def UsageFault.message : UsageFault → String
  | .unexpected argument => "unexpected argument '" ++ plain argument ++ "' found"
  | .noValue label => "a value is required for '" ++ label ++ "' but none was supplied"
  | .badCount text fault =>
    "invalid value '" ++ plain text ++ "' for '" ++ (Key.valued .indent).label ++ "': " ++
      fault.message
  | .badEol text => "invalid value '" ++ plain text ++ "' for '" ++ (Key.valued .eol).label ++ "'"
  | .repeated key => "the argument '" ++ key.label ++ "' cannot be used multiple times"
  | .needless text key =>
    "unexpected value '" ++ plain text ++ "' for '" ++ key.label ++ "' found; no more were expected"

/-- Why reading arguments ends early. -/
inductive Stop where
  | fault (f : UsageFault)
  | help
  | version
  deriving DecidableEq, Repr

/-- What waits to be settled. -/
inductive Pending where
  | nothing
  /-- An option, and its value if that has been met. -/
  | value (v : Valued) (given : Option String)
  /-- File names in a row. -/
  | files (names : List String)
  deriving DecidableEq, Repr

/-- The arguments read so far. -/
structure Reading where
  settings : Settings := {}
  /-- The options that have been settled. -/
  seen : List Key := []
  pending : Pending := .nothing
  deriving DecidableEq, Repr

namespace Reading

/-- Notes an option, which must not have been given before. -/
def note (r : Reading) (key : Key) : Except Stop Reading :=
  if key ∈ r.seen then .error (.fault (.repeated key)) else .ok { r with seen := key :: r.seen }

/-- Takes the value of an option into the settings. -/
def store (s : Settings) (v : Valued) (text : String) : Except UsageFault Settings :=
  match v with
  | .output =>
    if text.isEmpty then .error (.noValue (Key.valued .output).label)
    else .ok { s with output := some text }
  | .indent =>
    match count text with
    | .ok n => .ok { s with indent := n }
    | .error f => .error (.badCount text f)
  | .eol =>
    if text = "lf" then .ok { s with eol := .lf }
    else if text = "crlf" then .ok { s with eol := .crlf }
    else if text.isEmpty then .error (.noValue (Key.valued .eol).label)
    else .error (.badEol text)

/-- Gives an option its value. -/
def assign (r : Reading) (v : Valued) (text : String) : Except Stop Reading := do
  let r ← r.note (.valued v)
  let settings ← (store r.settings v text).mapError .fault
  return { r with settings }

/-- Looks at what is pending. -/
def settle (r : Reading) : Except Stop Reading :=
  let done := { r with pending := .nothing }
  match r.pending with
  | .nothing => .ok done
  | .value v none => .error (.fault (.noValue (Key.valued v).label))
  | .value v (some text) => done.assign v text
  | .files names =>
    if names.any String.isEmpty then .error (.fault (.noValue filesLabel))
    else .ok { done with settings.files := done.settings.files ++ names }

/-- Turns a flag on. -/
def turnOn (s : Settings) : Flag → Settings
  | .compact => { s with compact := true }
  | .tabs => { s with tabs := true }
  | .validate => { s with validate := true }
  | .verbose => { s with verbose := true }

/-- Reads an option that stands alone. -/
def flag (r : Reading) (f : Flag) : Except Stop Reading := do
  let r ← (← r.settle).note (.flag f)
  return { r with settings := turnOn r.settings f }

/-- Reads an option that takes a value, with the value if it stands in the same argument. -/
def valued (r : Reading) (v : Valued) (attached : Option String) : Except Stop Reading := do
  let r ← r.settle
  match attached with
  | some text => r.assign v text
  | none => return { r with pending := .value v none }

/-- Asks for something else than a run. -/
def stop (r : Reading) (s : Stop) : Except Stop Reading := do
  let _ ← r.settle
  throw s

/-- Reads an argument that begins with two hyphens, without them. -/
def long (r : Reading) (letters : List Char) : Except Stop Reading :=
  let name := String.ofList (letters.takeWhile (· ≠ '='))
  let attached := match letters.dropWhile (· ≠ '=') with
    | [] => none
    | _ :: text => some (String.ofList text)
  match Key.ofLong? name, attached with
  | none, _ => .error (.fault (.unexpected ("--" ++ name)))
  | some (.valued v), attached => r.valued v attached
  | some key, some text => .error (.fault (.needless text key))
  | some (.flag f), none => r.flag f
  | some .help, none => r.stop .help
  | some .version, none => r.stop .version

/-- Reads the letters after a single hyphen.  The letters after an option that takes a value are its
value, with an equals sign before it or not. -/
def short (r : Reading) : List Char → Except Stop Reading
  | [] => .ok r
  | c :: letters =>
    match Key.ofShort? c with
    | none => .error (.fault (.unexpected ("-" ++ c.toString)))
    | some (.flag f) => do short (← r.flag f) letters
    | some (.valued v) =>
      r.valued v <| match letters with
        | [] => none
        | '=' :: text => some (String.ofList text)
        | text => some (String.ofList text)
    | some .help => r.stop .help
    | some .version => r.stop .version

/-- Reads a file name. -/
def file (r : Reading) (name : String) : Except Stop Reading := do
  match r.pending with
  | .files names => return { r with pending := .files (names ++ [name]) }
  | _ => return { ← r.settle with pending := .files [name] }

/-- Reads an argument that is no option: the value of a pending option, or a file name. -/
def plain (r : Reading) (text : String) : Except Stop Reading :=
  match r.pending with
  | .value v none => .ok { r with pending := .value v (some text) }
  | _ => r.file text

/-- Reads arguments; after two hyphens alone, every argument is a file name. -/
def all (r : Reading) : List String → Except Stop Reading
  | [] => .ok r
  | argument :: arguments =>
    match argument.toList with
    | ['-', '-'] => arguments.foldlM file r
    | '-' :: '-' :: letters => do all (← r.long letters) arguments
    | '-' :: c :: letters => do all (← r.short (c :: letters)) arguments
    | _ => do all (← r.plain argument) arguments

end Reading

/-- The settings that arguments choose. -/
def Settings.ofArguments (arguments : List String) : Except Stop Settings := do
  let r ← Reading.all {} arguments
  return (← r.settle).settings

end Reprint.Command
