import Reprint.Command.Log
import Reprint.Command.Pattern
import Reprint.Command.Settings
import Reprint.Text.Ranges

set_option autoImplicit false

/-!
# Command: which events are shown

A filter is a list of directives.  Each names the events that it is about, by the beginning of their
target and by a field that they have, and lets those through up to some level.  Of several
directives about one event the most specific decides: the one with the longest beginning; of those
with the same, one with a field, and of several fields the last in order; of the rest the last.
-/

namespace Reprint.Command

open Reprint.Text

/-- A field that a directive asks for. -/
structure Field where
  name : String
  /-- The value that the field has to have. -/
  value : Option String
  deriving DecidableEq, Repr

/-- Lets events through that matter enough. -/
structure Directive where
  /-- How the target of the events begins. -/
  beginning : String := ""
  /-- The span that the events lie in. -/
  span : Option String := none
  /-- A field of the events, or of the span. -/
  field : Option Field := none
  /-- The least weighty level that is let through; without one, nothing is. -/
  level : Option Level := some .trace
  deriving DecidableEq, Repr

namespace Directive

/-- The directive is about the event.  A span, or the value of a field, can only be asked of events
inside of spans, and this program opens none. -/
def concerns (d : Directive) (e : Event) : Bool :=
  e.target.startsWith d.beginning && d.span.isNone &&
    match d.field with
    | none => true
    | some field => field.value.isNone && e.fields.contains field.name

/-- Of two directives about one event the second is at least as specific. -/
def yieldsTo (d d' : Directive) : Bool :=
  if d.beginning.length = d'.beginning.length then
    match d.field, d'.field with
    | none, _ => true
    | some _, none => false
    | some field, some field' => decide (field.name ≤ field'.name)
  else decide (d.beginning.length < d'.beginning.length)

end Directive

/-- Which events are shown. -/
abbrev Filter : Type := List Directive

namespace Filter

/-- The directive that decides about an event. -/
def decisive (f : Filter) (e : Event) : Option Directive :=
  (f.filter (·.concerns e)).foldl (fun best d =>
    match best with
    | some b => if b.yieldsTo d then some d else some b
    | none => some d) none

/-- The event is shown. -/
def shows (f : Filter) (e : Event) : Bool :=
  match (f.decisive e).bind Directive.level with
  | some level => e.level.rank ≤ level.rank
  | none => false

/-- Everything up to a level. -/
def upTo (level : Level) : Filter := [{ level := some level }]

/-! ## How filters are spelled -/

/-- The level of a rank; the rank zero is below all levels. -/
def levelOfRank? : Nat → Option (Option Level)
  | 0 => some none
  | 1 => some (some .error)
  | 2 => some (some .warn)
  | 3 => some (some .info)
  | 4 => some (some .debug)
  | 5 => some (some .trace)
  | _ => none

/-- The level that a word names, in letters of either case, or a number. -/
def levelOf? (word : String) : Option (Option Level) :=
  match count word with
  | .ok rank => levelOfRank? rank
  | .error _ =>
    match word.toLower with
    | "off" => some none
    | "error" => some (some .error)
    | "warn" => some (some .warn)
    | "info" => some (some .info)
    | "debug" => some (some .debug)
    | "trace" => some (some .trace)
    | _ => none

/-- The level after an equals sign; nothing there means the last level. -/
def givenLevel? (word : List Char) : Option (Option Level) :=
  if word.isEmpty then some (some .trace) else levelOf? (String.ofList word)

/-- A directive that begins with a word begins with such a character. -/
def mayBegin (c : Char) : Bool := isAlphanumeric c || c == '-' || c == ':' || c == '_'

/-- A field as it stands between braces: a name, and a value after an equals sign. -/
def field? (letters : List Char) : Option Field :=
  let name := String.ofList (letters.takeWhile (· ≠ '='))
  match letters.dropWhile (· ≠ '=') with
  | [] => if letters.isEmpty then none else some ⟨name, none⟩
  | _ :: rest =>
    let value := rest.takeWhile (· ≠ '=')
    if isDemand value then some ⟨name, some (String.ofList value)⟩ else none

/-- What stands in brackets, after the first of them: a span, a field in braces, or both.  The rest
after the last bracket is handed back. -/
def scope? (letters : List Char) : Option (Option String × Option Field × List Char) :=
  let name := letters.takeWhile fun c => c ≠ ']' ∧ c ≠ '\x7b'
  match letters.dropWhile fun c => c ≠ ']' ∧ c ≠ '\x7b' with
  | ']' :: rest => some (some (String.ofList name), none, rest)
  | _ :: inner =>
    match inner.dropWhile (· ≠ '\x7d') with
    | _ :: ']' :: rest =>
      (field? (inner.takeWhile (· ≠ '\x7d'))).map fun field =>
        (if name.isEmpty then none else some (String.ofList name), some field, rest)
    | _ => none
  | [] => none

/-- The parts of a directive as it is spelled. -/
structure Spelling where
  /-- What stands before brackets and the equals sign. -/
  word : List Char
  span : Option String := none
  field : Option Field := none
  /-- What stands after the equals sign, if there is one. -/
  level : Option (List Char) := none
  deriving DecidableEq, Repr

/-- The parts of a text that does not begin with white space.  White space at its end belongs to
what it follows, but after brackets it is nothing. -/
def spelling? (letters : List Char) : Option Spelling :=
  let word := letters.takeWhile fun c => c ≠ '=' ∧ c ≠ '['
  if letters.head?.any fun c => mayBegin c || c == '[' then
    match letters.dropWhile fun c => c ≠ '=' ∧ c ≠ '[' with
    | [] => some { word }
    | '=' :: level => some { word, level := some level }
    | _ :: inner => do
      let (span, field, rest) ← scope? inner
      match rest with
      | '=' :: level => some { word, span, field, level := some level }
      | rest => if rest.all isBlank then some { word, span, field } else none
  else none

/-- The directive that a spelling stands for.  A word alone names a level, if there is one of this
name. -/
def Spelling.directive? (s : Spelling) : Option Directive :=
  let d : Directive := { beginning := String.ofList s.word, span := s.span, field := s.field }
  match s.level with
  | some word => (givenLevel? word).map ({ d with level := · })
  | none =>
    if s.span.isSome || s.field.isSome then some d
    else match levelOf? d.beginning with
      | some level => some { level }
      | none => some d

/-- The directive that a text spells.  White space at its front belongs to the word, so that no
target begins like it, and a level cannot be given then. -/
def directive? (letters : List Char) : Option Directive :=
  if letters.head?.any isBlank then do
    let s ← spelling? (letters.dropWhile isBlank)
    if s.level.isSome then none
    else some { beginning := String.ofList letters, span := s.span, field := s.field }
  else do (← spelling? letters).directive?

/-- The filter that directives with commas between them spell.  Without any, only errors are
shown. -/
def parse? (text : String) : Option Filter :=
  match (text.toList.splitOn ',').filter (¬ ·.isEmpty) with
  | [] => some (upTo .error)
  | parts => parts.mapM directive?

/-- The filter of a run: the one that the environment spells, or else one by the verbosity. -/
def ofEnvironment (spelled : Option String) (verbose : Bool) : Filter :=
  (spelled.bind parse?).getD (upTo (if verbose then .debug else .warn))

end Filter

end Reprint.Command
