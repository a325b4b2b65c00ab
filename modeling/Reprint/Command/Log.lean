import Reprint.Layout.Options

set_option autoImplicit false

/-!
# Command: the log

A run notes what it does as events.  An event has a level, a target, which is the part of the
program that notes it, and fields, which are what it says.
-/

namespace Reprint.Command

open Reprint.Layout

/-- How much an event matters, the weightiest first. -/
inductive Level where
  | error
  | warn
  | info
  | debug
  | trace
  deriving DecidableEq, Repr

namespace Level

/-- The place in the order. -/
def rank : Level → Nat
  | .error => 1
  | .warn => 2
  | .info => 3
  | .debug => 4
  | .trace => 5

/-- The word for a level. -/
def name : Level → String
  | .error => "ERROR"
  | .warn => "WARN"
  | .info => "INFO"
  | .debug => "DEBUG"
  | .trace => "TRACE"

end Level

/-- Something that a run notes. -/
inductive Event where
  /-- A file has been read. -/
  | read (path : String) (length : Nat)
  /-- The input is about to be parsed. -/
  | parsing (length : Nat)
  /-- The input has turned out to be JSON. -/
  | valid
  /-- The input has been printed. -/
  | printed (mode : Mode) (inputLength outputLength : Nat)
  /-- The output is complete. -/
  | finished (mode : Mode) (length : Nat)
  deriving DecidableEq, Repr

namespace Event

/-- How much the event matters. -/
def level : Event → Level
  | .parsing _ => .trace
  | .finished _ _ => .info
  | _ => .debug

/-- The part of the program that notes the event. -/
def target : Event → String
  | .parsing _ => "jsonbase::backend"
  | .printed _ _ _ => "jsonbase::printer"
  | _ => "jsonprint"

/-- The names of what the event says. -/
def fields : Event → List String
  | .read _ _ => ["message", "path", "len"]
  | .parsing _ => ["message", "len"]
  | .valid => ["message"]
  | .printed _ _ _ => ["message", "input_len", "output_len"]
  | .finished _ _ => ["message", "mode", "len"]

/-- What the event says. -/
def text : Event → String
  | .read path n => "read input file path=" ++ path ++ " len=" ++ n.repr
  | .parsing n => "parsing json len=" ++ n.repr
  | .valid => "input is valid JSON"
  | .printed mode n m =>
    (match mode with | .minimal => "minified" | .pretty => "prettified") ++
      " json input_len=" ++ n.repr ++ " output_len=" ++ m.repr
  | .finished mode n =>
    "reprinted json mode=" ++ (match mode with | .minimal => "Minimal" | .pretty => "Pretty") ++
      " len=" ++ n.repr

/-- The line that shows the event. -/
def line (e : Event) : String := e.level.name ++ " " ++ e.target ++ ": " ++ e.text

end Event

end Reprint.Command
