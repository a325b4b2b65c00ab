set_option autoImplicit false

/-!
# Reader: faults

Reading a text fails for one of a few causes, at a place in the text.  A fault names the place by
what is left unread there, in bytes, so that no reader needs to know what came before; the line and
the column are worked out once, for the whole text.
-/

namespace Reprint.Reader

/-- Why a text is not JSON. -/
inductive Cause where
  /-- The text ends where a value should be, or inside a word or a number. -/
  | endInValue
  /-- The text ends inside an array. -/
  | endInArray
  /-- The text ends inside an object. -/
  | endInObject
  /-- The text ends inside a string literal. -/
  | endInString
  /-- No value begins with this character. -/
  | noValue
  /-- A word that begins like `null`, `true` or `false` goes on differently. -/
  | wrongWord
  /-- Something else stands between two elements. -/
  | noCommaInArray
  /-- Something else stands between two members. -/
  | noCommaInObject
  /-- No colon follows the name of a member. -/
  | noColon
  /-- A comma is the last thing in an array or an object. -/
  | lastComma
  /-- The name of a member is not a string literal. -/
  | badName
  /-- A number is not written as JSON writes numbers. -/
  | badNumber
  /-- A number is too large for a floating-point number. -/
  | hugeNumber
  /-- A backslash in a string literal is followed by something that is no escape. -/
  | badEscape
  /-- A control character stands in a string literal. -/
  | controlCharacter
  /-- A surrogate stands where its pair does not allow it. -/
  | loneSurrogate
  /-- The second half of a surrogate pair is missing. -/
  | halfSurrogate
  /-- Arrays and objects are nested too deeply. -/
  | tooDeep
  /-- Something follows the value. -/
  | trailing
  deriving DecidableEq, Repr

/-- What is said about a cause. -/
def Cause.message : Cause → String
  | .endInValue => "EOF while parsing a value"
  | .endInArray => "EOF while parsing a list"
  | .endInObject => "EOF while parsing an object"
  | .endInString => "EOF while parsing a string"
  | .noValue => "expected value"
  | .wrongWord => "expected ident"
  | .noCommaInArray => "expected `,` or `]`"
  | .noCommaInObject => "expected `,` or `\x7d`"
  | .noColon => "expected `:`"
  | .lastComma => "trailing comma"
  | .badName => "key must be a string"
  | .badNumber => "invalid number"
  | .hugeNumber => "number out of range"
  | .badEscape => "invalid escape"
  | .controlCharacter => "control character (\\u0000-\\u001F) found while parsing a string"
  | .loneSurrogate => "lone leading surrogate in hex escape"
  | .halfSurrogate => "unexpected end of hex escape"
  | .tooDeep => "recursion limit exceeded"
  | .trailing => "trailing characters"

/-- How many bytes a text takes. -/
def byteCount (text : List Char) : Nat :=
  text.foldl (fun n c => n + c.utf8Size) 0

/-- A cause and the place where it was noticed. -/
structure Fault where
  cause : Cause
  /-- How many bytes of the text lie behind the place. -/
  left : Nat
  deriving DecidableEq, Repr

namespace Fault

/-- At the start of what is left of the text. -/
def here (cause : Cause) (rest : List Char) : Fault := ⟨cause, byteCount rest⟩

/-- Some bytes into what is left of the text, or at its end if it is shorter. -/
def past (count : Nat) (cause : Cause) (rest : List Char) : Fault :=
  ⟨cause, byteCount rest - count⟩

/-- After the first byte of what is left of the text, if there is one. -/
def peek (cause : Cause) (rest : List Char) : Fault := past 1 cause rest

end Fault

/-- A line, counted from one, and a number of bytes on that line. -/
structure Position where
  line : Nat
  column : Nat
  deriving DecidableEq, Repr

namespace Position

/-- The start of a text. -/
def start : Position := ⟨1, 0⟩

/-- One byte further. -/
def next (p : Position) (b : UInt8) : Position :=
  if b = 10 then ⟨p.line + 1, 0⟩ else ⟨p.line, p.column + 1⟩

/-- The position that so many bytes before the end of a text have. -/
def before (text : String) (left : Nat) : Position :=
  let bytes := text.toUTF8.toList
  (bytes.take (bytes.length - left)).foldl next start

end Position

/-- A fault with its line and column. -/
structure SyntaxFault where
  cause : Cause
  position : Position
  deriving DecidableEq, Repr

namespace SyntaxFault

/-- What is said about a fault. -/
def message (f : SyntaxFault) : String :=
  f.cause.message ++ " at line " ++ f.position.line.repr ++ " column " ++ f.position.column.repr

/-- Places a fault in the text that was read. -/
def locate (text : String) (f : Fault) : SyntaxFault :=
  ⟨f.cause, Position.before text f.left⟩

end SyntaxFault

end Reprint.Reader
