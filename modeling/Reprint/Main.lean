import Reprint.Command.Run

set_option autoImplicit false

/-!
# The program

The command on a machine: its arguments, its standard streams and its files.
-/

namespace Reprint.Command

/-- The fault that an error of the system stands for. -/
def PathFault.ofSystem : IO.Error → PathFault
  | .noFileOrDirectory _ _ _ => .notFound
  | .inappropriateType _ code _ => if code = 21 then .isDirectory else .notDirectory
  | e => .other (toString e)

/-- All bytes of a stream, after those that have been read. -/
partial def bytesAfter (seen : ByteArray) (stream : IO.FS.Stream) : IO ByteArray := do
  let more ← stream.read 65536
  if more.isEmpty then return seen else bytesAfter (seen ++ more) stream

/-- The bytes of a file, as far as it can be read. -/
def fileBytes (path : String) : IO (String × Except PathFault (List UInt8)) := do
  match ← (IO.FS.readBinFile path).toBaseIO with
  | .ok bytes => return (path, .ok bytes.toList)
  | .error e => return (path, .error (.ofSystem e))

/-- What the settings want read. -/
def Settings.systemSupply (s : Settings) : IO Supply := do
  if s.files.isEmpty then
    let stdin ← IO.getStdin
    if ← stdin.isTty then return .terminal
    return .input (← bytesAfter .empty stdin).toList
  else return .files (← s.files.mapM fileBytes)

/-- A run with given settings. -/
def Settings.runOnSystem (s : Settings) : IO Outcome := do
  let w := s.work (← s.systemSupply)
  match w.result, s.output with
  | .error f, _ => return .failure f w.log
  | .ok out, none => return .success out w.log
  | .ok out, some path =>
    match ← (IO.FS.writeFile path out).toBaseIO with
    | .ok _ => return .written path w.log (.ok ())
    | .error e => return .written path w.log (.error (.ofSystem e) : Except PathFault Unit)

end Reprint.Command

open Reprint.Command

/-- Runs the command and shows what it leaves behind. -/
def main (arguments : List String) : IO UInt32 := do
  let outcome ← match Settings.ofArguments arguments with
    | .error stop => pure (Outcome.stopped stop)
    | .ok s => do
      let outcome ← s.runOnSystem
      pure (outcome.shown (← IO.getEnv "RUST_LOG") s)
  for event in outcome.log do
    IO.eprintln event.line
  (← IO.getStdout).putStr outcome.output
  (← IO.getStderr).putStr outcome.message
  return outcome.code.toUInt32
