set_option autoImplicit false

/-!
# Command: files

A file system as a tree of directories that hold files and directories.  A path leads from the
working directory, or from the root when it begins with a slash, through directories to its last
name.

The system may refuse access to a place, for reasons of its own, and does so before anything is read
or written there.  What is written to a file that may be written is written as a whole.
-/

namespace Reprint.Command

/-- Why a path leads to nothing that can be read or written. -/
inductive PathFault where
  | notFound
  | notDirectory
  | isDirectory
  | nameTooLong
  /-- The system gives another reason. -/
  | other (reason : String)
  deriving DecidableEq, Repr

/-- What is said about a path. -/
def PathFault.message : PathFault → String
  | .notFound => "No such file or directory (os error 2)"
  | .notDirectory => "Not a directory (os error 20)"
  | .isDirectory => "Is a directory (os error 21)"
  | .nameTooLong => "File name too long (os error 36)"
  | .other reason => reason

/-- The names on the way from the root to a place. -/
abbrev Place : Type := List String

/-- What a place holds. -/
inductive Entry where
  | directory
  | file (bytes : List UInt8)
  deriving DecidableEq, Repr

/-- What may be asked of a place. -/
inductive Access where
  /-- To go through a directory. -/
  | enter
  /-- To read what is there. -/
  | read
  /-- To write a file there, which need not be there yet. -/
  | write
  deriving DecidableEq, Repr

/-- A file system. -/
structure Files where
  /-- The working directory. -/
  home : Place
  /-- What the places below the root hold. -/
  entries : List (Place × Entry)
  /-- What the system refuses, with its reasons. -/
  refusals : List ((Access × Place) × String)
  deriving DecidableEq, Repr

namespace Files

/-- The most bytes in a name. -/
def maxName : Nat := 255

/-- The most bytes in a path. -/
def maxPath : Nat := 4095

/-- What a place holds; the root is a directory. -/
def at? (fs : Files) (p : Place) : Option Entry :=
  if p = [] then some .directory else fs.entries.lookup p

/-- Asks the system for access to a place. -/
def ask (fs : Files) (a : Access) (p : Place) : Except PathFault Unit :=
  match fs.refusals.lookup (a, p) with
  | some reason => .error (.other reason)
  | none => .ok ()

/-- Takes one name of a path. -/
def step (fs : Files) (p : Place) (name : String) : Except PathFault Place :=
  match fs.at? p with
  | some .directory => do
    fs.ask .enter p
    if name = "." then return p
    else if name = ".." then return p.dropLast
    else if maxName < name.utf8ByteSize then throw .nameTooLong
    else return p ++ [name]
  | some (.file _) => .error .notDirectory
  | none => .error .notFound

/-- Where a path begins. -/
def origin (fs : Files) (path : String) : Place :=
  if path.startsWith "/" then [] else fs.home

/-- The names of a path. -/
def namesOf (path : String) : List String :=
  ((path.toList.splitOn '/').filter (¬ ·.isEmpty)).map String.ofList

/-- The path ends with a slash, which asks for a directory. -/
def asksDirectory (path : String) : Bool := path.endsWith "/"

/-- Where a path leads; what is there is not looked at. -/
def resolve (fs : Files) (path : String) : Except PathFault Place :=
  if maxPath < path.utf8ByteSize then .error .nameTooLong
  else (namesOf path).foldlM fs.step (fs.origin path)

/-- The contents of the file that a path leads to. -/
def read (fs : Files) (path : String) : Except PathFault (List UInt8) := do
  let p ← fs.resolve path
  match fs.at? p with
  | none => throw .notFound
  | some .directory => do
    fs.ask .read p
    throw .isDirectory
  | some (.file bytes) =>
    if asksDirectory path then throw .notDirectory
    else do
      fs.ask .read p
      return bytes

/-- Puts an entry at a place. -/
def put (fs : Files) (p : Place) (e : Entry) : Files :=
  { fs with entries := (p, e) :: fs.entries.filter (·.1 ≠ p) }

/-- Replaces the contents of the file that a path leads to; a file that is not there yet is made,
if its directory is there. -/
def write (fs : Files) (path : String) (bytes : List UInt8) : Except PathFault Files := do
  let p ← fs.resolve path
  if fs.at? p = some .directory ∨ asksDirectory path then throw .isDirectory
  else do
    fs.ask .write p
    return fs.put p (.file bytes)

end Files

end Reprint.Command
