import Reprint.Command.Arguments
import Reprint.Command.Files
import Reprint.Command.Filter
import Reprint.Document

set_option autoImplicit false

/-!
# Command: a run

A run reads all its input, checks it if asked to, makes the unit of indentation, prints the input,
and only then writes.  The work between reading and writing is a function of the settings and of
what was read, so the same work serves the file system of this library and that of a machine.
-/

namespace Reprint.Command

/-- Why a run fails. -/
inductive Failure where
  /-- Nobody sends anything to the standard input. -/
  | noInput
  /-- The standard input holds no text. -/
  | badInput (fault : Reader.SourceFault)
  /-- A file cannot be read. -/
  | unreadable (path : String) (fault : PathFault)
  /-- A file holds no text. -/
  | badFile (path : String) (fault : Reader.SourceFault)
  /-- The input is not JSON, as it should be. -/
  | invalid (error : Error)
  /-- The unit of indentation has more spaces than a text can have. -/
  | tooWide
  /-- The output cannot be written. -/
  | unwritable (path : String) (fault : PathFault)

/-- What is said about a failure. -/
def Failure.message : Failure → String
  | .noInput => "no input: pass a FILE or pipe JSON on stdin"
  | .badInput fault => fault.message
  | .unreadable path fault => "cannot read '" ++ path ++ "': " ++ fault.message
  | .badFile path fault => "cannot read '" ++ path ++ "': " ++ fault.message
  | .invalid error => error.message
  | .tooWide => "capacity overflow"
  | .unwritable path fault => "cannot write '" ++ path ++ "': " ++ fault.message

/-- The code that a failed run ends with.  A unit of indentation that no text can hold is not looked
for: the program panics over it, which has a code of its own. -/
def Failure.code : Failure → Nat
  | .tooWide => 101
  | _ => 1

/-- What a failed run says; of a panic only the reason. -/
def Failure.report : Failure → String
  | .tooWide => Failure.tooWide.message ++ "\n"
  | f => "jsonprint: " ++ f.message ++ "\n"

/-- What a piece of work has noted and what came of it. -/
structure Work (α : Type) where
  log : List Event
  result : Except Failure α

namespace Work

/-- Nothing to note, and nothing to do. -/
def done {α : Type} (a : α) : Work α := ⟨[], .ok a⟩

/-- Work that has failed is not gone on with. -/
def andThen {α β : Type} (w : Work α) (next : α → Work β) : Work β :=
  match w.result with
  | .error f => ⟨w.log, .error f⟩
  | .ok a => ⟨w.log ++ (next a).log, (next a).result⟩

instance : Monad Work where
  pure := done
  bind := andThen

/-- Notes an event. -/
def note (e : Event) : Work Unit := ⟨[e], .ok ()⟩

/-- Gives up. -/
def fail {α : Type} (f : Failure) : Work α := ⟨[], .error f⟩

/-- Goes on with what is there, and gives up if nothing is. -/
def need {α : Type} (f : Failure) : Option α → Work α
  | some a => done a
  | none => fail f

end Work

/-- What there is to read. -/
inductive Supply where
  /-- Nothing, because the standard input is a terminal. -/
  | terminal
  /-- The bytes of the standard input. -/
  | input (bytes : List UInt8)
  /-- Files in order, with their bytes as far as they can be read. -/
  | files (contents : List (String × Except PathFault (List UInt8)))

/-- The text of a file. -/
def fileText (path : String) (content : Except PathFault (List UInt8)) : Work String :=
  match content with
  | .error fault => .fail (.unreadable path fault)
  | .ok bytes =>
    match Reader.decode bytes with
    | .error fault => .fail (.badFile path fault)
    | .ok text => do
      Work.note (.read path text.utf8ByteSize)
      return text

/-- The whole input: the texts of several files follow one another directly. -/
def Supply.text : Supply → Work String
  | .terminal => .fail .noInput
  | .input bytes =>
    match Reader.decode bytes with
    | .error fault => .fail (.badInput fault)
    | .ok text => .done text
  | .files contents => do
    return String.join (← contents.mapM fun c => fileText c.1 c.2)

namespace Settings

/-- Refuses input that is not JSON, if the settings ask for that. -/
def check (s : Settings) (input : String) : Work Unit :=
  if s.validate then do
    Work.note (.parsing input.utf8ByteSize)
    match parse input with
    | .error e => Work.fail (.invalid e)
    | .ok _ => Work.note .valid
  else .done ()

/-- Everything between reading and writing. -/
def work (s : Settings) (supply : Supply) : Work String := do
  let input ← supply.text
  s.check input
  let o ← Work.need .tooWide s.options
  let printed := o.print input
  Work.note (.printed o.mode input.utf8ByteSize printed.utf8ByteSize)
  let out := printed ++ o.eol.text
  Work.note (.finished o.mode out.utf8ByteSize)
  return out

end Settings

/-- What a run is given. -/
structure Request where
  arguments : List String
  /-- The bytes of the standard input. -/
  input : List UInt8
  /-- The filter that the environment spells. -/
  filter : Option String

/-- What a run leaves behind, files apart. -/
structure Outcome where
  code : Nat
  /-- The text on the standard output. -/
  output : String
  /-- The text on the standard error, log lines apart. -/
  message : String
  log : List Event

namespace Outcome

/-- Success, with some text on the standard output. -/
def success (output : String) (log : List Event) : Outcome := ⟨0, output, "", log⟩

/-- A failed run. -/
def failure (f : Failure) (log : List Event) : Outcome := ⟨f.code, "", f.report, log⟩

/-- The end of a run that has tried to write a file. -/
def written {α : Type} (path : String) (log : List Event) : Except PathFault α → Outcome
  | .ok _ => success "" log
  | .error fault => failure (.unwritable path fault) log

/-- A run that does not take place. -/
def stopped : Stop → Outcome
  | .fault f => ⟨2, "", "error: " ++ f.message ++ "\n", []⟩
  | .help => success helpText []
  | .version => success versionText []

end Outcome

/-- What the settings want read. -/
def Settings.supply (s : Settings) (input : List UInt8) (fs : Files) : Supply :=
  if s.files.isEmpty then .input input else .files (s.files.map fun path => (path, fs.read path))

/-- A run with given settings. -/
def Settings.run (s : Settings) (input : List UInt8) (fs : Files) : Outcome × Files :=
  let w := s.work (s.supply input fs)
  match w.result with
  | .error f => (.failure f w.log, fs)
  | .ok out =>
    match s.output with
    | none => (.success out w.log, fs)
    | some path =>
      let after := fs.write path out.toUTF8.toList
      (.written path w.log after, after.toOption.getD fs)

/-- Keeps of the log what the filter of the run shows. -/
def Outcome.shown (o : Outcome) (spelled : Option String) (s : Settings) : Outcome :=
  { o with log := o.log.filter (Filter.ofEnvironment spelled s.verbose).shows }

/-- A run. -/
def run (r : Request) (fs : Files) : Outcome × Files :=
  match Settings.ofArguments r.arguments with
  | .error stop => (.stopped stop, fs)
  | .ok s =>
    let (outcome, fs) := s.run r.input fs
    (outcome.shown r.filter s, fs)

end Reprint.Command
