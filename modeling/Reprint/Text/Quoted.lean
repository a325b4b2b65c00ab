import Reprint.Text.Extending
import Reprint.Text.Unprintable

set_option autoImplicit false

/-!
# Text: between quotation marks

A JSON string literal writes quotation marks, backslashes and control characters as escapes and
every other character as itself.

A message shows a string between quotation marks as well.  There quotation marks, backslashes and
the usual control characters get a backslash.  Other characters that show nothing of their own,
because they cannot be printed or because they are drawn onto the character before them, are shown
by their code points.
-/

namespace Reprint.Text

/-! ## String literals -/

/-- How a character is written inside a JSON string literal. -/
def escape (c : Char) : List Char :=
  if c = '"' then ['\\', '"']
  else if c = '\\' then ['\\', '\\']
  else if c = '\x08' then ['\\', 'b']
  else if c = '\x0c' then ['\\', 'f']
  else if c = '\n' then ['\\', 'n']
  else if c = '\r' then ['\\', 'r']
  else if c = '\t' then ['\\', 't']
  else if c.toNat < 0x20 then
    ['\\', 'u', '0', '0', Nat.digitChar (c.toNat / 16), Nat.digitChar (c.toNat % 16)]
  else [c]

/-- A text as a JSON string literal. -/
def quoted (text : List Char) : List Char :=
  '"' :: text.flatMap escape ++ ['"']

/-! ## Strings in messages -/

/-- A character that shows nothing of its own. -/
def isUnseen (c : Char) : Bool := isExtending c || isUnprintable c

/-- How a message shows a character of a string. -/
def shownChar (c : Char) : String :=
  if c = '"' then "\\\""
  else if c = '\\' then "\\\\"
  else if c = '\x00' then "\\0"
  else if c = '\t' then "\\t"
  else if c = '\n' then "\\n"
  else if c = '\r' then "\\r"
  else if isUnseen c then
    "\\u\x7b" ++ String.ofList (Nat.toDigits 16 c.toNat) ++ "\x7d"
  else c.toString

/-- How a message shows a string. -/
def shown (s : String) : String :=
  "\"" ++ String.join (s.toList.map shownChar) ++ "\""

end Reprint.Text
